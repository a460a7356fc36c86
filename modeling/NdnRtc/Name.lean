/-
The name layer `name-components.cpp` is written against: `ndn::Name` and
`ndn::Name::Component` of ndn-cpp, and the `NameComponents` constants and
prefix builders of `name-components.cpp` itself.

ndn-cpp is not among the sources, so only what the parser uses is modelled, at
the level the spec fixes (§6: version, segment and sequence components are NDN
typed TLVs). A component is its TLV type with its value; a numeric component
carries the number `toNumber` decodes. The conversions `toVersion`, `toSegment`
and `toSequenceNumber` throw `std::runtime_error` on a component of another
type, and `Name::get` (behind `name[i]`) does not check its index: both are
kept as the two ways a call can end other than by returning, so that what the
parser does on every name can be stated, not only what it does on good ones.
-/
import Mathlib.Data.List.Basic

set_option autoImplicit false

namespace NdnRtc

/-! ## Components -/

/-- An NDN name component. A generic component is kept as its escaped URI
form (escaping is a bijection, so nothing is lost); `other` stands for every
TLV type the parser never distinguishes (digests, timestamps, keywords). -/
inductive Component where
  | generic (value : String)
  | segment (n : Nat)
  | version (n : Nat)
  | sequenceNumber (n : Nat)
  | other (type : Nat) (value : String)
  deriving DecidableEq, Repr

/-- How a call ends when it does not return: a `std::runtime_error` thrown by a
component conversion, or a read `name[i]` at `i ≥ name.size()`, which
`Name::get` does not guard (undefined behaviour in the C++). -/
inductive Fault where
  | runtimeError
  | outOfRange
  deriving DecidableEq, Repr

/-- Outcomes are compared when the model is run on a concrete name. -/
instance instDecidableEqExcept {ε α : Type} [DecidableEq ε] [DecidableEq α] :
    DecidableEq (Except ε α)
  | .error a, .error b => decidable_of_iff (a = b) (by simp)
  | .ok a, .ok b => decidable_of_iff (a = b) (by simp)
  | .error _, .ok _ => isFalse (by simp)
  | .ok _, .error _ => isFalse (by simp)

namespace Component

/-- `Name::Component::isVersion`. -/
def isVersion : Component → Bool
  | version _ => true
  | _ => false

/-- `Name::Component::toVersion`. -/
def toVersion : Component → Except Fault Nat
  | version n => .ok n
  | _ => .error .runtimeError

/-- `Name::Component::toSegment`. -/
def toSegment : Component → Except Fault Nat
  | segment n => .ok n
  | _ => .error .runtimeError

/-- `Name::Component::toSequenceNumber`. -/
def toSequenceNumber : Component → Except Fault Nat
  | sequenceNumber n => .ok n
  | _ => .error .runtimeError

/-- `Name::Component::toEscapedString`: the URI form, with the type written in
front of a non-generic value. -/
def toEscapedString : Component → String
  | generic v => v
  | segment n => "seg=" ++ toString n
  | version n => "v=" ++ toString n
  | sequenceNumber n => "seq=" ++ toString n
  | other t v => toString t ++ "=" ++ v

@[simp] theorem toVersion_version (n : Nat) : (version n).toVersion = .ok n := rfl
@[simp] theorem toSegment_segment (n : Nat) : (segment n).toSegment = .ok n := rfl
@[simp] theorem toSequenceNumber_sequenceNumber (n : Nat) :
    (sequenceNumber n).toSequenceNumber = .ok n := rfl

@[simp] theorem isVersion_iff (c : Component) : c.isVersion = true ↔ ∃ n, c = version n := by
  cases c <;> simp [isVersion]

@[simp] theorem toSegment_eq_ok (c : Component) (n : Nat) :
    c.toSegment = .ok n ↔ c = segment n := by
  cases c <;> simp [toSegment]

@[simp] theorem toSequenceNumber_eq_ok (c : Component) (n : Nat) :
    c.toSequenceNumber = .ok n ↔ c = sequenceNumber n := by
  cases c <;> simp [toSequenceNumber]

/-- A conversion either succeeds or throws `std::runtime_error`; nothing else. -/
theorem toSegment_ne_outOfRange (c : Component) : c.toSegment ≠ .error .outOfRange := by
  cases c <;> simp [toSegment]

theorem toSequenceNumber_ne_outOfRange (c : Component) :
    c.toSequenceNumber ≠ .error .outOfRange := by
  cases c <;> simp [toSequenceNumber]

end Component

/-! ## Names -/

/-- `ndn::Name`: its components, in order. -/
abbrev Name := List Component

namespace Name

/-- `Name::size`. -/
def size (name : Name) : Nat := List.length name

/-- `name[i]`, i.e. `Name::get(i)` at a non-negative index. -/
def get (name : Name) (i : Nat) : Except Fault Component :=
  match List.get? name i with
  | some c => .ok c
  | none => .error .outOfRange

/-- `Name::getSubName(iStartComponent, nComponents)`. -/
def getSubName (name : Name) (iStartComponent nComponents : Nat) : Name :=
  List.take nComponents (List.drop iStartComponent name)

/-- `Name::getSubName(iStartComponent)`: every component from `iStartComponent` on. -/
def getSubNameFrom (name : Name) (iStartComponent : Nat) : Name :=
  List.drop iStartComponent name

/-- `Name::match`: whether `pfx` is a prefix of `name`. -/
def nameMatch (pfx name : Name) : Bool := List.isPrefixOf pfx name

@[simp] theorem size_eq (name : Name) : size name = List.length name := rfl

@[simp] theorem get_cons_zero (c : Component) (cs : Name) : get (c :: cs) 0 = .ok c := rfl

@[simp] theorem get_cons_succ (c : Component) (cs : Name) (i : Nat) :
    get (c :: cs) (i + 1) = get cs i := rfl

@[simp] theorem get_nil (i : Nat) : get [] i = .error .outOfRange := rfl

/-- A read below the size succeeds. -/
theorem get_of_lt (name : Name) (i : Nat) (h : i < List.length name) :
    get name i = .ok name[i] := by
  simp [get, List.get?_eq_getElem? name i, h]

@[simp] theorem getSubNameFrom_eq (name : Name) (i : Nat) :
    getSubNameFrom name i = List.drop i name := rfl

@[simp] theorem getSubName_zero (name : Name) (n : Nat) :
    getSubName name 0 n = List.take n name := rfl

end Name

/-- `MediaStreamParams::MediaStreamType`. -/
inductive MediaStreamType where
  | audio
  | video
  deriving DecidableEq, Repr

/-! ## `NameComponents`

The constants of `name-components.cpp:24-47`. `Name::Component(str)` makes a
generic component of the string's bytes; all of these are unreserved URI
characters, so each is its own escaped form. -/

namespace NameComponents

/-- `NameComponents::NameComponentApp`. -/
def NameComponentApp : String := "ndnrtc"
/-- `NameComponents::NameComponentAudio`. -/
def NameComponentAudio : String := "audio"
/-- `NameComponents::NameComponentVideo`. -/
def NameComponentVideo : String := "video"
/-- `NameComponents::NameComponentMeta`. -/
def NameComponentMeta : String := "_meta"
/-- `NameComponents::NameComponentDelta`. -/
def NameComponentDelta : String := "d"
/-- `NameComponents::NameComponentKey`. -/
def NameComponentKey : String := "k"
/-- `NameComponents::NameComponentParity`. -/
def NameComponentParity : String := "_parity"

/-- `NameComponents::ndnrtcSuffix()`: `Name(NameComponentApp).appendVersion(nameApiVersion())`.
`nameApiVersion()` reads the `PACKAGE_VERSION` macro, which is not among the
sources, so it is a parameter. -/
def ndnrtcSuffix (nameApiVersion : Nat) : Name :=
  [.generic NameComponentApp, .version nameApiVersion]

/-- The component `streamPrefix` appends for a stream type. -/
def streamTypeComponent : MediaStreamType → Component
  | .audio => .generic NameComponentAudio
  | .video => .generic NameComponentVideo

/-- `NameComponents::streamPrefix(type, basePrefix)`, with `basePrefix` already
parsed from its URI. -/
def streamPrefix (nameApiVersion : Nat) (type : MediaStreamType) (basePrefix : Name) : Name :=
  basePrefix ++ ndnrtcSuffix nameApiVersion ++ [streamTypeComponent type]

/-- `NameComponents::audioStreamPrefix(basePrefix)`. -/
def audioStreamPrefix (nameApiVersion : Nat) (basePrefix : Name) : Name :=
  streamPrefix nameApiVersion .audio basePrefix

/-- `NameComponents::videoStreamPrefix(basePrefix)`. -/
def videoStreamPrefix (nameApiVersion : Nat) (basePrefix : Name) : Name :=
  streamPrefix nameApiVersion .video basePrefix

end NameComponents

end NdnRtc
