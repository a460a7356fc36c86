/-
Where the API version in every name comes from: `ndnrtcVersionComponents` and
`NameComponents::nameApiVersion` in `name-components.cpp`.

`ndnrtcSuffix` appends `nameApiVersion()` as a version component. `nameApiVersion()` is
`(unsigned int)atoi(components.front().c_str())`, over the components `boost::split` cuts
`PACKAGE_VERSION` into at dots, with each run of dots merged into one separator
(`token_compress_on`). The macro is not among the sources, so the version text is a
parameter.

`boost::split` never returns an empty vector, so `front()` is always defined, and merging
runs of dots never touches the first component: the API version is `atoi` of the text before
the first dot, whatever follows it (`nameApiVersion_eq`).
-/
import NdnRtc.Name
import NdnRtc.Tools.GetSize

set_option autoImplicit false

namespace NdnRtc.NameComponents

/-! ## `boost::split` with `token_compress_on` -/

/-- `boost::split(components, text, isSep, token_compress_on)`: the text between maximal
runs of separators, with an empty component before a leading run and after a trailing one. -/
def splitCompress (isSep : Char → Bool) : List Char → List (List Char)
  | [] => [[]]
  | c :: cs =>
    if isSep c then
      if cs.head?.any isSep then splitCompress isSep cs else [] :: splitCompress isSep cs
    else
      match splitCompress isSep cs with
      | t :: ts => (c :: t) :: ts
      | [] => [[c]]

/-- The first component is the text before the first separator, so the result is never
empty. -/
theorem head?_splitCompress (isSep : Char → Bool) (text : List Char) :
    (splitCompress isSep text).head? = some (text.takeWhile (fun c => !isSep c)) := by
  induction text with
  | nil => rfl
  | cons c cs ih =>
    by_cases hc : isSep c
    · by_cases hrun : cs.head?.any isSep
      · rw [splitCompress, if_pos hc, if_pos hrun, ih]
        cases cs with
        | nil => simp at hrun
        | cons d ds => simp_all [List.takeWhile_cons]
      · simp [splitCompress, hc, hrun, List.takeWhile_cons]
    · obtain ⟨ts, hts⟩ : ∃ ts, splitCompress isSep cs = cs.takeWhile (fun c => !isSep c) :: ts := by
        cases h : splitCompress isSep cs with
        | nil => simp [h] at ih
        | cons t ts => exact ⟨ts, by simpa [h] using ih⟩
      simp [splitCompress, hc, hts, List.takeWhile_cons]

/-! ## `atoi` -/

/-- `strtol(s, nullptr, 10)` with a 64-bit `long`: white space, an optional sign, then the
longest run of digits, clamped to the range of `long`; 0 when there is no digit. -/
def strtol (s : List Char) : Int :=
  let (neg, body) := match s.dropWhile Tools.isSpace with
    | '-' :: r => (true, r)
    | '+' :: r => (false, r)
    | r => (false, r)
  let v : Int := Tools.digitsValue (body.takeWhile Char.isDigit)
  if neg then max (-v) (-9223372036854775808) else min v 9223372036854775807

/-- `(unsigned int)atoi(s)`. glibc's `atoi` is `(int)strtol(s, nullptr, 10)`, and both casts
keep the low 32 bits. -/
def atoiUnsigned (s : List Char) : Nat := (strtol s % 4294967296).toNat

/-! ## The API version -/

/-- `ndnrtcVersionComponents()`: `PACKAGE_VERSION` cut at runs of dots. -/
def ndnrtcVersionComponents (packageVersion : List Char) : List (List Char) :=
  splitCompress (· = '.') packageVersion

/-- `NameComponents::nameApiVersion()`: `atoi` of the first component. `boost::split` always
returns one (`head?_splitCompress`), so the second case is never taken. -/
def nameApiVersion (packageVersion : List Char) : Nat :=
  match ndnrtcVersionComponents packageVersion with
  | major :: _ => atoiUnsigned major
  | [] => 0

/-- **The API version is the number before the first dot.** `front()` always has a
component to read, and how the rest of `PACKAGE_VERSION` is cut does not matter. -/
theorem nameApiVersion_eq (packageVersion : List Char) :
    nameApiVersion packageVersion = atoiUnsigned (packageVersion.takeWhile (· ≠ '.')) := by
  have h := head?_splitCompress (· = '.') packageVersion
  unfold nameApiVersion ndnrtcVersionComponents
  cases hs : splitCompress (· = '.') packageVersion with
  | nil => simp [hs] at h
  | cons major rest => simp_all

/-- A version with a dot in it: only the major number counts. -/
example : nameApiVersion "4.1..2".toList = 4 := by decide

end NdnRtc.NameComponents
