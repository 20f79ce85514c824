import OneseismicApi.Go
import OneseismicApi.Pool.Loop
import OneseismicApi.Pool.System
import OneseismicApi.Pool.Invariant
import OneseismicApi.Pool.Progress
import OneseismicApi.Pool.Outcome
import OneseismicApi.Core.FetchHorizon
import OneseismicApi.Core.Exceptions
import OneseismicApi.Core.CalculateAttributes
import OneseismicApi.Core.Surface
import OneseismicApi.Core.Handle
import OneseismicApi.Core.Options
import OneseismicApi.Core.Metadata
import OneseismicApi.Core.Attributes
import OneseismicApi.Vds.Fence
import OneseismicApi.Vds.Horizon
import OneseismicApi.Vds.Binary64
import OneseismicApi.Api.Cache
import OneseismicApi.Api.Endpoint
import OneseismicApi.Api.Server
