import Mathlib

/-! # The Go and cgo runtime as the core package uses it

A call of the core package ends in one of three ways: it returns a value, it
returns an error built by `toError` from a C status code, or the Go runtime
panics (an index out of range, a bad `C.GoBytes` length). Undefined behaviour on
the C++ side (a read or write outside an allocation) is a fourth way, `fault`,
so that a model never hides it.

Go `int` values are 64 bit and C `int` values 32 bit; `C.int(..)` keeps the low
32 bits of its argument.
-/

namespace OneseismicApi.Go

/-- The errors of the core package: `NewInvalidArgument`, `NewInternalError`,
    and a plain `errors.New`. -/
inductive GoError where
  | invalidArgument (msg : String)
  | internalError (msg : String)
  | plain (msg : String)
  deriving DecidableEq, Repr

/-- A runtime panic of the Go side. -/
inductive Panic where
  /-- `runtime error: index out of range [index] with length length`. -/
  | indexOutOfRange (index length : Nat)
  /-- `gobytes: length out of range`. -/
  | gobytesLength
  deriving DecidableEq, Repr

/-- Every way a call can end other than returning a value. -/
inductive Failure where
  | panic (p : Panic)
  | error (e : GoError)
  /-- Undefined behaviour: an access outside an allocation. -/
  | fault
  deriving DecidableEq, Repr

/-- The result of a Go call. -/
abbrev Outcome (α : Type) := Except Failure α

/-! ## Status codes and `toError` -/

/-- `enum status_code` of `capi.h`. -/
def STATUS_OK : Int := 0
def STATUS_NULLPTR_ERROR : Int := 1
def STATUS_RUNTIME_ERROR : Int := 2
def STATUS_BAD_REQUEST : Int := 3

/-- `toError`: translate a C status code and the message the C side left in the
    context into a Go error. -/
def toError (status : Int) (msg : String) : Option GoError :=
  if status = STATUS_OK then none
  else if status = STATUS_NULLPTR_ERROR ∨ status = STATUS_RUNTIME_ERROR then
    some (.internalError msg)
  else if status = STATUS_BAD_REQUEST then some (.invalidArgument msg)
  else some (.plain msg)

/-- `if err := toError(status, ctx); err != nil { return nil, err }`. -/
def orFail (status : Int) (msg : String) : Outcome Unit :=
  match toError status msg with
  | some e => .error (.error e)
  | none => .ok ()

@[simp] theorem orFail_ok (msg : String) : orFail STATUS_OK msg = .ok () := rfl

@[simp] theorem ok_bind {ε α β : Type} (a : α) (f : α → Except ε β) :
    (Except.ok a >>= f) = f a := rfl

@[simp] theorem error_bind {ε α β : Type} (e : ε) (f : α → Except ε β) :
    (Except.error e >>= f) = .error e := rfl

theorem bind_eq_ok {ε α β : Type} {x : Except ε α} {f : α → Except ε β} {b : β} :
    x >>= f = .ok b ↔ ∃ a, x = .ok a ∧ f a = .ok b := by
  cases x <;> simp

@[simp] theorem mapError_eq_ok {ε ε' α : Type} {x : Except ε α} {g : ε → ε'} {a : α} :
    x.mapError g = .ok a ↔ x = .ok a := by
  cases x <;> simp [Except.mapError]

theorem mapM_ok_length {ε β γ : Type} (f : β → Except ε γ) :
    ∀ (l : List β) (ts : List γ), l.mapM f = .ok ts → ts.length = l.length := by
  intro l
  induction l with
  | nil => intro ts h; cases h; rfl
  | cons a l ih =>
    intro ts h
    rw [List.mapM_cons] at h
    cases ha : f a with
    | error e => rw [ha] at h; cases h
    | ok b =>
      cases hl : l.mapM f with
      | error e => rw [ha, hl] at h; cases h
      | ok bs => rw [ha, hl] at h; cases h; simp [ih _ hl]

theorem mapM_eq_ok {ε β γ : Type} {f : β → Except ε γ} {g : β → γ} :
    ∀ {l : List β}, (∀ x ∈ l, f x = .ok (g x)) → l.mapM f = .ok (l.map g)
  | [], _ => rfl
  | x :: l, h => by
    rw [List.mapM_cons, h x (.head _), mapM_eq_ok fun y hy => h y (.tail _ hy)]
    rfl

theorem mapM_append_error {ε β γ : Type} {f : β → Except ε γ} {e : ε} {p : β} (more : List β)
    (hp : f p = .error e) :
    ∀ {good : List β}, (∀ x ∈ good, ∃ y, f x = .ok y) → (good ++ p :: more).mapM f = .error e
  | [], _ => by rw [List.nil_append, List.mapM_cons, hp]; rfl
  | x :: good, h => by
    obtain ⟨y, hy⟩ := h x (.head _)
    rw [List.cons_append, List.mapM_cons, hy, mapM_append_error more hp fun z hz => h z (.tail _ hz)]
    rfl

theorem forM_const_ok {β : Type} (l : List β) {body : Outcome Unit} (h : body = .ok ()) :
    l.forM (fun _ => body) = .ok () := by
  subst h
  induction l with
  | nil => rfl
  | cons _ _ ih => simpa using ih

theorem forM_const_error {β : Type} {l : List β} (hl : l ≠ []) {body : Outcome Unit}
    {e : Failure} (h : body = .error e) : l.forM (fun _ => body) = .error e := by
  obtain ⟨_, _, rfl⟩ := List.exists_cons_of_ne_nil hl
  simp [h]

/-- A Go error returned by a callee ends the caller with the same error. -/
def liftError {α : Type} (r : Except GoError α) : Outcome α := r.mapError .error

@[simp] theorem liftError_ok {α : Type} (a : α) : liftError (.ok a) = .ok a := rfl

/-! ## Integers -/

/-- `min` of `core.go`. -/
def minInt (a b : Nat) : Nat := if a < b then a else b

/-- `max` of `core.go`. -/
def maxInt (a b : Nat) : Nat := if a > b then a else b

@[simp] theorem minInt_eq (a b : Nat) : minInt a b = min a b := by
  unfold minInt; split <;> omega

@[simp] theorem maxInt_eq (a b : Nat) : maxInt a b = max a b := by
  unfold maxInt; split <;> omega

/-- `C.int(n)`: the low 32 bits of `n`, read as a signed C `int`. -/
def cInt (n : Int) : Int := (BitVec.ofInt 32 n).toInt

theorem cInt_of_lt {n : Int} (h₁ : -2 ^ 31 ≤ n) (h₂ : n < 2 ^ 31) : cInt n = n := by
  unfold cInt
  rw [BitVec.toInt_ofInt, Int.bmod_def]
  split <;> omega

theorem cInt_add_two_pow (n : Int) : cInt (n + 2 ^ 32) = cInt n := by
  unfold cInt
  rw [BitVec.toInt_ofInt, BitVec.toInt_ofInt]
  exact Int.bmod_add_cancel n (2 ^ 32)

theorem cInt_natCast (n : Nat) :
    cInt n = if n % 2 ^ 32 < 2 ^ 31 then ((n % 2 ^ 32 : Nat) : Int)
      else ((n % 2 ^ 32 : Nat) : Int) - 2 ^ 32 := by
  unfold cInt
  rw [BitVec.toInt_ofInt, Int.bmod_def]
  split <;> split <;> omega

/-- `C.enum_...(n)` of a Go `int`: the low 32 bits, as the unsigned C enum. -/
def cEnum (n : Int) : Nat := (BitVec.ofInt 32 n).toNat

/-! ## Strings -/

/-- The simple lower-case mappings of Unicode above ASCII, as runs
    `(lo, hi, stride, delta)`: every `stride`-th code point from `lo` to `hi`
    lowers to itself plus `delta`, and a code point in no run lowers to itself.
    These are the mappings Go's `unicode.CaseRanges` encodes, as
    `UnicodeData.txt` gives them. -/
def lowerRuns : List (Nat × Nat × Nat × Int) :=
  [(0xC0, 0xD6, 1, 32), (0xD8, 0xDE, 1, 32), (0x100, 0x12E, 2, 1), (0x130, 0x130, 1, -199),
   (0x132, 0x136, 2, 1), (0x139, 0x147, 2, 1), (0x14A, 0x176, 2, 1), (0x178, 0x178, 1, -121),
   (0x179, 0x17D, 2, 1), (0x181, 0x181, 1, 210), (0x182, 0x184, 2, 1), (0x186, 0x186, 1, 206),
   (0x187, 0x187, 1, 1), (0x189, 0x18A, 1, 205), (0x18B, 0x18B, 1, 1), (0x18E, 0x18E, 1, 79),
   (0x18F, 0x18F, 1, 202), (0x190, 0x190, 1, 203), (0x191, 0x191, 1, 1), (0x193, 0x193, 1, 205),
   (0x194, 0x194, 1, 207), (0x196, 0x196, 1, 211), (0x197, 0x197, 1, 209), (0x198, 0x198, 1, 1),
   (0x19C, 0x19C, 1, 211), (0x19D, 0x19D, 1, 213), (0x19F, 0x19F, 1, 214), (0x1A0, 0x1A4, 2, 1),
   (0x1A6, 0x1A6, 1, 218), (0x1A7, 0x1A7, 1, 1), (0x1A9, 0x1A9, 1, 218), (0x1AC, 0x1AC, 1, 1),
   (0x1AE, 0x1AE, 1, 218), (0x1AF, 0x1AF, 1, 1), (0x1B1, 0x1B2, 1, 217), (0x1B3, 0x1B5, 2, 1),
   (0x1B7, 0x1B7, 1, 219), (0x1B8, 0x1B8, 1, 1), (0x1BC, 0x1BC, 1, 1), (0x1C4, 0x1C4, 1, 2),
   (0x1C5, 0x1C5, 1, 1), (0x1C7, 0x1C7, 1, 2), (0x1C8, 0x1C8, 1, 1), (0x1CA, 0x1CA, 1, 2),
   (0x1CB, 0x1DB, 2, 1), (0x1DE, 0x1EE, 2, 1), (0x1F1, 0x1F1, 1, 2), (0x1F2, 0x1F4, 2, 1),
   (0x1F6, 0x1F6, 1, -97), (0x1F7, 0x1F7, 1, -56), (0x1F8, 0x21E, 2, 1), (0x220, 0x220, 1, -130),
   (0x222, 0x232, 2, 1), (0x23A, 0x23A, 1, 10795), (0x23B, 0x23B, 1, 1), (0x23D, 0x23D, 1, -163),
   (0x23E, 0x23E, 1, 10792), (0x241, 0x241, 1, 1), (0x243, 0x243, 1, -195),
   (0x244, 0x244, 1, 69), (0x245, 0x245, 1, 71), (0x246, 0x24E, 2, 1), (0x370, 0x372, 2, 1),
   (0x376, 0x376, 1, 1), (0x37F, 0x37F, 1, 116), (0x386, 0x386, 1, 38), (0x388, 0x38A, 1, 37),
   (0x38C, 0x38C, 1, 64), (0x38E, 0x38F, 1, 63), (0x391, 0x3A1, 1, 32), (0x3A3, 0x3AB, 1, 32),
   (0x3CF, 0x3CF, 1, 8), (0x3D8, 0x3EE, 2, 1), (0x3F4, 0x3F4, 1, -60), (0x3F7, 0x3F7, 1, 1),
   (0x3F9, 0x3F9, 1, -7), (0x3FA, 0x3FA, 1, 1), (0x3FD, 0x3FF, 1, -130), (0x400, 0x40F, 1, 80),
   (0x410, 0x42F, 1, 32), (0x460, 0x480, 2, 1), (0x48A, 0x4BE, 2, 1), (0x4C0, 0x4C0, 1, 15),
   (0x4C1, 0x4CD, 2, 1), (0x4D0, 0x52E, 2, 1), (0x531, 0x556, 1, 48), (0x10A0, 0x10C5, 1, 7264),
   (0x10C7, 0x10C7, 1, 7264), (0x10CD, 0x10CD, 1, 7264), (0x13A0, 0x13EF, 1, 38864),
   (0x13F0, 0x13F5, 1, 8), (0x1C90, 0x1CBA, 1, -3008), (0x1CBD, 0x1CBF, 1, -3008),
   (0x1E00, 0x1E94, 2, 1), (0x1E9E, 0x1E9E, 1, -7615), (0x1EA0, 0x1EFE, 2, 1),
   (0x1F08, 0x1F0F, 1, -8), (0x1F18, 0x1F1D, 1, -8), (0x1F28, 0x1F2F, 1, -8),
   (0x1F38, 0x1F3F, 1, -8), (0x1F48, 0x1F4D, 1, -8), (0x1F59, 0x1F5F, 2, -8),
   (0x1F68, 0x1F6F, 1, -8), (0x1F88, 0x1F8F, 1, -8), (0x1F98, 0x1F9F, 1, -8),
   (0x1FA8, 0x1FAF, 1, -8), (0x1FB8, 0x1FB9, 1, -8), (0x1FBA, 0x1FBB, 1, -74),
   (0x1FBC, 0x1FBC, 1, -9), (0x1FC8, 0x1FCB, 1, -86), (0x1FCC, 0x1FCC, 1, -9),
   (0x1FD8, 0x1FD9, 1, -8), (0x1FDA, 0x1FDB, 1, -100), (0x1FE8, 0x1FE9, 1, -8),
   (0x1FEA, 0x1FEB, 1, -112), (0x1FEC, 0x1FEC, 1, -7), (0x1FF8, 0x1FF9, 1, -128),
   (0x1FFA, 0x1FFB, 1, -126), (0x1FFC, 0x1FFC, 1, -9), (0x2126, 0x2126, 1, -7517),
   (0x212A, 0x212A, 1, -8383), (0x212B, 0x212B, 1, -8262), (0x2132, 0x2132, 1, 28),
   (0x2160, 0x216F, 1, 16), (0x2183, 0x2183, 1, 1), (0x24B6, 0x24CF, 1, 26),
   (0x2C00, 0x2C2F, 1, 48), (0x2C60, 0x2C60, 1, 1), (0x2C62, 0x2C62, 1, -10743),
   (0x2C63, 0x2C63, 1, -3814), (0x2C64, 0x2C64, 1, -10727), (0x2C67, 0x2C6B, 2, 1),
   (0x2C6D, 0x2C6D, 1, -10780), (0x2C6E, 0x2C6E, 1, -10749), (0x2C6F, 0x2C6F, 1, -10783),
   (0x2C70, 0x2C70, 1, -10782), (0x2C72, 0x2C72, 1, 1), (0x2C75, 0x2C75, 1, 1),
   (0x2C7E, 0x2C7F, 1, -10815), (0x2C80, 0x2CE2, 2, 1), (0x2CEB, 0x2CED, 2, 1),
   (0x2CF2, 0x2CF2, 1, 1), (0xA640, 0xA66C, 2, 1), (0xA680, 0xA69A, 2, 1),
   (0xA722, 0xA72E, 2, 1), (0xA732, 0xA76E, 2, 1), (0xA779, 0xA77B, 2, 1),
   (0xA77D, 0xA77D, 1, -35332), (0xA77E, 0xA786, 2, 1), (0xA78B, 0xA78B, 1, 1),
   (0xA78D, 0xA78D, 1, -42280), (0xA790, 0xA792, 2, 1), (0xA796, 0xA7A8, 2, 1),
   (0xA7AA, 0xA7AA, 1, -42308), (0xA7AB, 0xA7AB, 1, -42319), (0xA7AC, 0xA7AC, 1, -42315),
   (0xA7AD, 0xA7AD, 1, -42305), (0xA7AE, 0xA7AE, 1, -42308), (0xA7B0, 0xA7B0, 1, -42258),
   (0xA7B1, 0xA7B1, 1, -42282), (0xA7B2, 0xA7B2, 1, -42261), (0xA7B3, 0xA7B3, 1, 928),
   (0xA7B4, 0xA7C2, 2, 1), (0xA7C4, 0xA7C4, 1, -48), (0xA7C5, 0xA7C5, 1, -42307),
   (0xA7C6, 0xA7C6, 1, -35384), (0xA7C7, 0xA7C9, 2, 1), (0xA7D0, 0xA7D0, 1, 1),
   (0xA7D6, 0xA7D8, 2, 1), (0xA7F5, 0xA7F5, 1, 1), (0xFF21, 0xFF3A, 1, 32),
   (0x10400, 0x10427, 1, 40), (0x104B0, 0x104D3, 1, 40), (0x10570, 0x1057A, 1, 39),
   (0x1057C, 0x1058A, 1, 39), (0x1058C, 0x10592, 1, 39), (0x10594, 0x10595, 1, 39),
   (0x10C80, 0x10CB2, 1, 64), (0x118A0, 0x118BF, 1, 32), (0x16E40, 0x16E5F, 1, 32),
   (0x1E900, 0x1E921, 1, 34)]

/-- `unicode.ToLower`: an ASCII letter gains `'a' - 'A'`, and a code point above
    ASCII moves by the delta of its run. -/
def toLowerRune (c : Char) : Char :=
  if c.toNat < 128 then c.toLower
  else
    match lowerRuns.find? fun (lo, hi, stride, _) =>
        lo ≤ c.toNat && c.toNat ≤ hi && (c.toNat - lo) % stride == 0 with
    | some (_, _, _, delta) => Char.ofNat (c.toNat + delta).toNat
    | none => c

/-- `strings.ToLower`: `unicode.ToLower` of every rune. -/
def toLower (s : String) : String := ⟨s.data.map toLowerRune⟩

/-! ## Slices -/

/-- `&s[i]`: the address of element `i`, which Go checks against the length.
    The C side receives the elements from `i` on. -/
def addr {α : Type} (s : List α) (i : Nat) : Outcome (List α) :=
  if i < s.length then .ok (s.drop i) else .error (.panic (.indexOutOfRange i s.length))

/-- `s[i]` of a Go slice. -/
def index {α : Type} (s : List α) (i : Nat) : Outcome α :=
  if h : i < s.length then .ok s[i] else .error (.panic (.indexOutOfRange i s.length))

@[simp] theorem addr_nil {α : Type} (i : Nat) :
    addr ([] : List α) i = .error (.panic (.indexOutOfRange i 0)) := rfl

theorem addr_of_lt {α : Type} {s : List α} {i : Nat} (h : i < s.length) :
    addr s i = .ok (s.drop i) := if_pos h

/-- `s[i] = v` of a Go slice. -/
def assign {α : Type} (s : List α) (i : Nat) (v : α) : Outcome (List α) :=
  if i < s.length then .ok (s.set i v) else .error (.panic (.indexOutOfRange i s.length))

theorem assign_append {α : Type} (pre rest : List α) (a v : α) :
    assign (pre ++ a :: rest) pre.length v = .ok (pre ++ v :: rest) := by
  simp [assign, List.set_append_right]

/-- `C.GoBytes(data, n)`: a negative length panics, a length past the C buffer
    reads outside it, and otherwise the first `n` bytes are copied. -/
def goBytes {α : Type} (data : List α) (n : Int) : Outcome (List α) :=
  if n < 0 then .error (.panic .gobytesLength)
  else if data.length < n.toNat then .error .fault
  else .ok (data.take n.toNat)

theorem goBytes_of_le {α : Type} {data : List α} {n : Int} (h₀ : 0 ≤ n)
    (h : n.toNat ≤ data.length) : goBytes data n = .ok (data.take n.toNat) := by
  unfold goBytes
  rw [if_neg (by omega), if_neg (by omega)]

theorem goBytes_cInt_length {α : Type} (data : List α) :
    (data.length % 2 ^ 32 < 2 ^ 31 →
      goBytes data (cInt data.length) = .ok (data.take (data.length % 2 ^ 32))) ∧
    (2 ^ 31 ≤ data.length % 2 ^ 32 →
      goBytes data (cInt data.length) = .error (.panic .gobytesLength)) := by
  rw [cInt_natCast]
  constructor
  · intro h
    rw [if_pos h, goBytes_of_le (by omega) (by simp; omega)]
    rfl
  · intro h
    rw [if_neg (by omega)]
    exact if_pos (by omega)

theorem goBytes_cInt_of_lt {α : Type} {data : List α} (h : data.length < 2 ^ 31) :
    goBytes data (cInt data.length) = .ok data := by
  rw [(goBytes_cInt_length data).1 (by omega), Nat.mod_eq_of_lt (by omega), List.take_length]

end OneseismicApi.Go
