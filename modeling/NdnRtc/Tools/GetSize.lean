/-
`getSize` of the command-line tools (`tools/codec/main.cpp:273-301`, and the
same text in `tools/stream/main.cpp:213-241`): it reads a frame size `WxH` for
the encoder into two `uint16_t` out-parameters.

The string is read with `getline(ss, k, 'x')` from an `istringstream`, each
field goes through `std::stoi`, a field whose value is not positive is skipped
without failing, the first field `stoi` rejects ends the loop, and the value
is stored into the `uint16_t` with no range check. `getSize_eq_one` says exactly
when `1` is returned under all of this: whenever two positive fields come after
only non-positive ones, and then `w` and `h` receive those two.

The successive `getline` calls are computed once, as `fields`
(`fields_eq_getline` shows they are exactly what the calls return), and the
`while` loop runs over them.
-/
import Mathlib.Data.List.Basic

set_option autoImplicit false

namespace NdnRtc.Tools

/-! ## `std::getline` and `std::stoi` -/

/-- `getline(ss, k, delim)` on an `istringstream` positioned at `input`: the
characters up to the delimiter (the delimiter itself is read and dropped), and
what is left. It fails when nothing is left to read. -/
def getline (input : List Char) (delim : Char) : Option (List Char × List Char) :=
  match input with
  | [] => none
  | _ => some (input.takeWhile (· != delim), (input.dropWhile (· != delim)).drop 1)

/-- The fields successive `getline(ss, k, delim)` calls return, until one fails. -/
def fields (delim : Char) : List Char → List (List Char)
  | [] => []
  | c :: cs =>
    if c = delim then [] :: fields delim cs
    else match fields delim cs with
      | [] => [[c]]
      | k :: ks => (c :: k) :: ks

/-- `fields` is the sequence of `getline` results: the first call returns the
first field and leaves the stream at the rest. -/
theorem fields_eq_getline (delim : Char) (input : List Char) :
    fields delim input = match getline input delim with
      | none => []
      | some (k, rest) => k :: fields delim rest := by
  induction input with
  | nil => rfl
  | cons c cs ih =>
    by_cases hc : c = delim
    · subst hc
      simp [fields, getline]
    · rw [fields, if_neg hc, ih]
      cases cs with
      | nil => simp [getline, fields, hc]
      | cons d ds => simp [getline, hc]

/-- `isspace` in the C locale, which `strtol` skips before a number. -/
def isSpace (c : Char) : Bool :=
  c = ' ' || c = '\t' || c = '\n' || c = '\x0b' || c = '\x0c' || c = '\r'

/-- The value of a run of decimal digits. -/
def digitsValue (ds : List Char) : Nat :=
  ds.foldl (fun n d => 10 * n + (d.toNat - '0'.toNat)) 0

/-- `std::stoi(k)`, through `strtol(k, &end, 10)`: leading white space, an
optional sign, then the longest run of digits; anything after it is ignored.
`none` is an exception: `std::invalid_argument` when there is no digit,
`std::out_of_range` when the value does not fit an `int`. -/
def stoi (k : List Char) : Option Int :=
  let (neg, body) := match k.dropWhile isSpace with
    | '-' :: r => (true, r)
    | '+' :: r => (false, r)
    | r => (false, r)
  let ds := body.takeWhile Char.isDigit
  if ds = [] then none
  else
    let v : Int := if neg then -(digitsValue ds : Int) else digitsValue ds
    if -2147483648 ≤ v ∧ v ≤ 2147483647 then some v else none

/-! ## `getSize` -/

/-- `w = val` or `h = val`: an `int` stored into a `uint16_t`. -/
def toUInt16 (val : Int) : UInt16 := UInt16.ofNat val.toNat

/-- The `while (getline(ss, k, 'x') && idx < 2)` loop, over the fields still to
read, with the counter and the two out-parameters. A field `stoi` rejects is
caught and breaks the loop. -/
def getSizeLoop : List (List Char) → Nat → UInt16 → UInt16 → Nat × UInt16 × UInt16
  | [], idx, w, h => (idx, w, h)
  | k :: ks, idx, w, h =>
    if idx < 2 then
      match stoi k with
      | none => (idx, w, h)
      | some val =>
        if val > 0 then
          if idx = 0 then getSizeLoop ks (idx + 1) (toUInt16 val) h
          else getSizeLoop ks (idx + 1) w (toUInt16 val)
        else getSizeLoop ks idx w h
    else (idx, w, h)

/-- `int getSize(string sizeStr, uint16_t& w, uint16_t& h)`: the value returned,
then `w` and `h` as the call leaves them. -/
def getSize (sizeStr : String) (w h : UInt16) : Int × UInt16 × UInt16 :=
  match getSizeLoop (fields 'x' sizeStr.toList) 0 w h with
  | (idx, w', h') => (if idx = 2 then 1 else 0, w', h')

/-- `getSize` of `tools/codec/main.cpp:273`. -/
def Codec.getSize : String → UInt16 → UInt16 → Int × UInt16 × UInt16 := Tools.getSize

/-- `getSize` of `tools/stream/main.cpp:213`, the same text as the codec's. -/
def Stream.getSize : String → UInt16 → UInt16 → Int × UInt16 × UInt16 := Tools.getSize

/-! ## What a return of `1` means -/

/-- Fields the loop reads past: each converts, to a value that is not
positive. -/
def NonPos (fs : List (List Char)) : Prop := ∀ f ∈ fs, ∃ v, stoi f = some v ∧ v ≤ 0

/-- With two sizes read, the loop stops at once. -/
theorem getSizeLoop_of_two_le (ks : List (List Char)) (idx : Nat) (w h : UInt16) (hidx : 2 ≤ idx) :
    getSizeLoop ks idx w h = (idx, w, h) := by
  cases ks with
  | nil => rfl
  | cons k ks => simp [getSizeLoop, Nat.not_lt.mpr hidx]

/-- The fields of a size: non-positive ones, a positive `N₁`, non-positive ones, a
positive `N₂`, and anything after. -/
def SizeFields (fs : List (List Char)) (N₁ N₂ : Int) : Prop :=
  ∃ (pre : List (List Char)) (f₁ : List Char) (mid : List (List Char)) (f₂ : List Char)
    (rest : List (List Char)), fs = pre ++ f₁ :: (mid ++ f₂ :: rest) ∧ NonPos pre ∧
    NonPos mid ∧ stoi f₁ = some N₁ ∧ 0 < N₁ ∧ stoi f₂ = some N₂ ∧ 0 < N₂

/-- Once the loop holds one size, it ends with two only after non-positive
fields and a positive one. -/
theorem getSizeLoop_one (ks : List (List Char)) (w h : UInt16)
    (h2 : (getSizeLoop ks 1 w h).1 = 2) :
    ∃ (mid : List (List Char)) (f : List Char) (rest : List (List Char)) (N : Int),
      ks = mid ++ f :: rest ∧ NonPos mid ∧ stoi f = some N ∧ 0 < N := by
  induction ks with
  | nil => cases h2
  | cons k ks ih =>
    rw [getSizeLoop, if_pos (by decide)] at h2
    cases hk : stoi k with
    | none => rw [hk] at h2; cases h2
    | some val =>
      rw [hk] at h2
      dsimp only at h2
      by_cases hv : val > 0
      · exact ⟨[], k, ks, val, rfl, by simp [NonPos], hk, hv⟩
      · rw [if_neg hv] at h2
        obtain ⟨mid, f, rest, N, rfl, hmid, hf, hN⟩ := ih h2
        exact ⟨k :: mid, f, rest, N, rfl, List.forall_mem_cons.mpr ⟨⟨val, hk, by omega⟩, hmid⟩,
          hf, hN⟩

/-- From the start, the loop ends with two sizes only on the fields of a size. -/
theorem getSizeLoop_zero (ks : List (List Char)) (w h : UInt16)
    (h2 : (getSizeLoop ks 0 w h).1 = 2) : ∃ N₁ N₂, SizeFields ks N₁ N₂ := by
  induction ks with
  | nil => cases h2
  | cons k ks ih =>
    rw [getSizeLoop, if_pos (by decide)] at h2
    cases hk : stoi k with
    | none => rw [hk] at h2; cases h2
    | some val =>
      rw [hk] at h2
      dsimp only at h2
      by_cases hv : val > 0
      · rw [if_pos hv, if_pos rfl] at h2
        obtain ⟨mid, f, rest, N, rfl, hmid, hf, hN⟩ := getSizeLoop_one ks _ h h2
        exact ⟨val, N, [], k, mid, f, rest, rfl, by simp [NonPos], hmid, hk, hv, hf, hN⟩
      · rw [if_neg hv] at h2
        obtain ⟨N₁, N₂, pre, f₁, mid, f₂, rest, rfl, hpre, hmid, h₁, hN₁, h₂, hN₂⟩ := ih h2
        exact ⟨N₁, N₂, k :: pre, f₁, mid, f₂, rest, rfl,
          List.forall_mem_cons.mpr ⟨⟨val, hk, by omega⟩, hpre⟩, hmid, h₁, hN₁, h₂, hN₂⟩

/-- `getSize` returns `1` exactly when its loop counted two sizes. -/
theorem getSize_fst_eq_one (sizeStr : String) (w h : UInt16) :
    (getSize sizeStr w h).1 = 1 ↔ (getSizeLoop (fields 'x' sizeStr.toList) 0 w h).1 = 2 := by
  unfold getSize
  generalize getSizeLoop (fields 'x' sizeStr.toList) 0 w h = r
  obtain ⟨idx, w', h'⟩ := r
  by_cases hidx : idx = 2 <;> simp [hidx]

/-- Non-positive fields are read past with nothing changed. -/
theorem getSizeLoop_nonPos_append (pre ks : List (List Char)) (idx : Nat) (w h : UInt16)
    (hpre : NonPos pre) (hidx : idx < 2) :
    getSizeLoop (pre ++ ks) idx w h = getSizeLoop ks idx w h := by
  induction pre with
  | nil => rfl
  | cons f pre ih =>
    obtain ⟨⟨v, hv, hv0⟩, hpre⟩ := List.forall_mem_cons.mp hpre
    rw [List.cons_append, getSizeLoop, if_pos hidx, hv]
    dsimp only
    rw [if_neg (by omega), ih hpre]

/-- The fields of a size take the loop from the start to two sizes, the two positive
values stored: non-positive fields are read past. -/
theorem getSizeLoop_sizes (ks : List (List Char)) (N₁ N₂ : Int) (w h : UInt16)
    (hks : SizeFields ks N₁ N₂) : getSizeLoop ks 0 w h = (2, toUInt16 N₁, toUInt16 N₂) := by
  obtain ⟨pre, f₁, mid, f₂, rest, rfl, hpre, hmid, h₁, hN₁, h₂, hN₂⟩ := hks
  rw [getSizeLoop_nonPos_append _ _ _ _ _ hpre (by decide), getSizeLoop, if_pos (by decide), h₁]
  dsimp only
  rw [if_pos hN₁, if_pos rfl, getSizeLoop_nonPos_append _ _ _ _ _ hmid (by decide), getSizeLoop,
    if_pos (by decide), h₂]
  dsimp only
  rw [if_pos hN₂, if_neg (by decide), getSizeLoop_of_two_le _ _ _ _ le_rfl]

/-- **A size read by either tool**: when `getSize` returns `1`, the fields of the
string are the fields of a size; and on the fields of a size, whatever `w` and `h`
held, `getSize` returns `1` with `N₁` and `N₂` in `w` and `h` as a `uint16_t` holds
them, non-positive fields skipped. -/
theorem getSize_eq_one (sizeStr : String) (w h : UInt16) :
    ∀ getSize' ∈ [Codec.getSize, Stream.getSize],
      ((getSize' sizeStr w h).1 = 1 → ∃ N₁ N₂, SizeFields (fields 'x' sizeStr.toList) N₁ N₂) ∧
      ∀ N₁ N₂, SizeFields (fields 'x' sizeStr.toList) N₁ N₂ →
        getSize' sizeStr w h = (1, toUInt16 N₁, toUInt16 N₂) := by
  intro getSize' hmem
  have hcopy : getSize' = Tools.getSize := by
    simp only [List.mem_cons, List.mem_singleton, List.not_mem_nil, or_false] at hmem
    rcases hmem with rfl | rfl <;> rfl
  subst hcopy
  refine ⟨fun h1 => getSizeLoop_zero _ w h ((getSize_fst_eq_one sizeStr w h).mp h1),
    fun N₁ N₂ hks => ?_⟩
  rw [getSize, getSizeLoop_sizes _ N₁ N₂ w h hks]
  rfl

/-- Both tools read `640x480` as width 640 and height 480. -/
theorem getSize_eq_one_640x480 :
    Codec.getSize ∈ [Codec.getSize, Stream.getSize] ∧
      ((Codec.getSize "640x480" 0 0).1 = 1 →
        ∃ N₁ N₂, SizeFields (fields 'x' "640x480".toList) N₁ N₂) ∧
      ∀ N₁ N₂, SizeFields (fields 'x' "640x480".toList) N₁ N₂ →
        Codec.getSize "640x480" 0 0 = (1, toUInt16 N₁, toUInt16 N₂) :=
  ⟨List.mem_cons_self _ _, getSize_eq_one "640x480" 0 0 Codec.getSize (List.mem_cons_self _ _)⟩

/-- Two sizes the original reading gets wrong, in both tools: a first field of `0` is
skipped, so `0x640x480` is read as 640 by 480, and a width of 70000 is accepted
and stored modulo `2^16`. -/
theorem getSize_skips_zero_and_wraps :
    Codec.getSize "0x640x480" 0 0 = (1, 640, 480) ∧ Stream.getSize "0x640x480" 0 0 = (1, 640, 480) ∧
      fields 'x' "0x640x480".toList = [['0'], ['6', '4', '0'], ['4', '8', '0']] ∧
      stoi ['0'] = some 0 ∧
      Codec.getSize "70000x480" 0 0 = (1, 4464, 480) ∧
      Stream.getSize "70000x480" 0 0 = (1, 4464, 480) ∧
      stoi ['7', '0', '0', '0', '0'] = some 70000 := by
  decide

/-- **When `getSize` returns `1`**, exactly: the fields are non-positive ones, a
positive one, non-positive ones, a positive one, and anything after. Both tools'
copies are this definition. -/
theorem getSize_fst_eq_one_iff (sizeStr : String) (w h : UInt16) :
    (getSize sizeStr w h).1 = 1 ↔
      ∃ (pre : List (List Char)) (f₁ : List Char) (mid : List (List Char)) (f₂ : List Char)
        (rest : List (List Char)) (N₁ N₂ : Int),
        fields 'x' sizeStr.toList = pre ++ f₁ :: (mid ++ f₂ :: rest) ∧ NonPos pre ∧ NonPos mid ∧
        stoi f₁ = some N₁ ∧ 0 < N₁ ∧ stoi f₂ = some N₂ ∧ 0 < N₂ := by
  rw [getSize_fst_eq_one]
  constructor
  · intro h2
    obtain ⟨N₁, N₂, pre, f₁, mid, f₂, rest, hks⟩ := getSizeLoop_zero _ w h h2
    exact ⟨pre, f₁, mid, f₂, rest, N₁, N₂, hks⟩
  · rintro ⟨pre, f₁, mid, f₂, rest, N₁, N₂, hks⟩
    rw [getSizeLoop_sizes _ N₁ N₂ w h ⟨pre, f₁, mid, f₂, rest, hks⟩]

end NdnRtc.Tools
