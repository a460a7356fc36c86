/-
`NameComponents::extractInfo` and its helpers `extractMeta`,
`extractVideoStreamInfo` and `extractAudioStreamInfo`
(`name-components.cpp:201-353`): the parser from a full NDN-RTC name to the
`NamespaceInfo` out-parameter.

The C++ writes `info` field by field and can leave the function three ways:
by returning `true` or `false`, by an exception from a component conversion,
or by reading a component past the end of the name. `Parse` keeps all three,
and keeps the writes made before an exception, because a `catch` sees `info`
as the `try` block left it. The two stream helpers share their first half
verbatim (the stream name, the stream- and thread-level `_meta` branches and
the thread name), so that half is one definition, `extractStreamInfo`, and
each helper is it applied to its own sample grammar.

The widths of the unsigned fields are not among the sources (`name-components.h`
and the `PacketNumber` typedef are missing), so they are a parameter
`FieldWidths`, and every store keeps its value modulo `2 ^ width`.
-/
import Mathlib.Algebra.Group.Nat.Basic
import NdnRtc.Name

set_option autoImplicit false

namespace NdnRtc

open NameComponents

/-! ## The out-parameter -/

/-- Bit widths of `NamespaceInfo`'s unsigned fields `apiVersion_`,
`metaVersion_`, `sampleNo_` (a `PacketNumber`) and `segNo_`. -/
structure FieldWidths where
  apiVersion : Nat
  metaVersion : Nat
  sampleNo : Nat
  segNo : Nat

/-- A `uint64_t` converted to an unsigned field of `bits` bits. -/
def toUnsigned (bits n : Nat) : Nat := n % 2 ^ bits

/-- `NamespaceInfo`, with the fields `extractInfo` writes. -/
structure NamespaceInfo where
  basePrefix : Name
  apiVersion : Nat
  streamType : MediaStreamType
  streamName : String
  threadName : String
  isMeta : Bool
  isDelta : Bool
  isParity : Bool
  metaVersion : Nat
  sampleNo : Nat
  segNo : Nat
  deriving DecidableEq, Repr

/-! ## The parser monad -/

/-- A parser step: from the out-parameter as it stands, the value returned or
the fault the call ended in, and the out-parameter as the call left it. -/
def Parse (α : Type) := NamespaceInfo → Except Fault α × NamespaceInfo

namespace Parse

instance : Monad Parse where
  pure a := fun info => (.ok a, info)
  bind x f := fun info =>
    match x info with
    | (.ok a, info') => f a info'
    | (.error e, info') => (.error e, info')

instance : MonadStateOf NamespaceInfo Parse where
  get := fun info => (.ok info, info)
  set info := fun _ => (.ok (), info)
  modifyGet f := fun info => ((.ok (f info).1), (f info).2)

/-- `throw` ends the call keeping the writes made so far; `tryCatch` hands them
to the handler. -/
instance : MonadExceptOf Fault Parse where
  throw e := fun info => (.error e, info)
  tryCatch x h := fun info =>
    match x info with
    | (.error e, info') => h e info'
    | r => r

instance : MonadLift (Except Fault) Parse where
  monadLift x := fun info => (x, info)

variable {α β : Type}

@[simp] theorem bind_apply (x : Parse α) (f : α → Parse β) (info : NamespaceInfo) :
    (x >>= f) info =
      match x info with
      | (.ok a, info') => f a info'
      | (.error e, info') => (.error e, info') := rfl

@[simp] theorem pure_apply (a : α) (info : NamespaceInfo) :
    (pure a : Parse α) info = (.ok a, info) := rfl

@[simp] theorem modify_apply (f : NamespaceInfo → NamespaceInfo) (info : NamespaceInfo) :
    (modify f : Parse PUnit) info = (.ok (), f info) := rfl

@[simp] theorem lift_apply (x : Except Fault α) (info : NamespaceInfo) :
    (liftM x : Parse α) info = (x, info) := rfl

@[simp] theorem ite_apply (c : Prop) [Decidable c] (x y : Parse α) (info : NamespaceInfo) :
    (if c then x else y) info = if c then x info else y info := by
  split <;> rfl

@[simp] theorem throw_apply (e : Fault) (info : NamespaceInfo) :
    (throw e : Parse α) info = (.error e, info) := rfl

@[simp] theorem tryCatch_apply (x : Parse α) (h : Fault → Parse α) (info : NamespaceInfo) :
    (tryCatch x h : Parse α) info =
      match x info with
      | (.error e, info') => h e info'
      | r => r := rfl

end Parse

/-! ## The parser -/

/-- `Name::Component(NameComponents::NameComponentMeta)`. -/
def metaComponent : Component := .generic NameComponentMeta
/-- `Name::Component(NameComponents::NameComponentDelta)`. -/
def deltaComponent : Component := .generic NameComponentDelta
/-- `Name::Component(NameComponents::NameComponentKey)`. -/
def keyComponent : Component := .generic NameComponentKey
/-- `Name::Component(NameComponents::NameComponentParity)`. -/
def parityComponent : Component := .generic NameComponentParity
/-- `Name::Component(NameComponents::NameComponentApp)`. -/
def appComponent : Component := .generic NameComponentApp

/-- `catch (std::runtime_error& e) { return false; }`; a read past the end is no
exception, so it is not caught. -/
def catchRuntimeError (e : Fault) : Parse Bool :=
  if e = .runtimeError then pure false else throw e

section
variable (w : FieldWidths)

/-- `info.segNo_ = c.toSegment(); return true;`, how each accepting branch ends. -/
def setSegNo (c : Component) : Parse Bool := do
  let s ← c.toSegment
  modify fun info => { info with segNo := toUnsigned w.segNo s }
  pure true

/-- `extractMeta` (`name-components.cpp:201`): `<version>/<seg>`, the part of a
meta name after `_meta`. -/
def extractMeta (name : Name) : Parse Bool :=
  if name.size ≥ 2 then do
    let c0 ← name.get 0
    if c0.isVersion then do
      let v ← c0.toVersion
      modify fun info => { info with metaVersion := toUnsigned w.metaVersion v }
      let c1 ← name.get 1
      setSegNo w c1
    else pure false
  else pure false

/-- The half `extractVideoStreamInfo` and `extractAudioStreamInfo` share
(`name-components.cpp:215-232` and `273-290`), on the name from the stream
component on; `sample` parses a name that is not a meta name. -/
def extractStreamInfo (sample : Name → Parse Bool) (name : Name) : Parse Bool :=
  if name.size < 4 then pure false else do
    let c0 ← name.get 0
    modify fun info => { info with streamName := c0.toEscapedString }
    let c1 ← name.get 1
    modify fun info => { info with isMeta := c1 == metaComponent }
    if c1 == metaComponent then do
      modify fun info => { info with threadName := "" }
      extractMeta w (name.getSubNameFrom 2)
    else do
      modify fun info => { info with threadName := c1.toEscapedString }
      let c2 ← name.get 2
      modify fun info => { info with isMeta := c2 == metaComponent }
      if c2 == metaComponent then do
        let found ← extractMeta w (name.getSubNameFrom 3)
        if found then pure true else sample name
      else sample name

/-- `if (name.size() > i) info.sampleNo_ = (PacketNumber)name[i].toSequenceNumber();`,
the first statement of both `try` blocks (`i = 3` for video, `2` for audio). -/
def readSampleNo (i : Nat) (name : Name) : Parse Unit :=
  if name.size > i then do
    let c ← name.get i
    let n ← c.toSequenceNumber
    modify fun info => { info with sampleNo := toUnsigned w.sampleNo n }
  else pure ()

/-- The rest of the video `try` block (`name-components.cpp:243-258`): the
optional `_parity` component and the segment number. -/
def videoSegment (name : Name) : Parse Bool :=
  if name.size > 4 then do
    let c4 ← name.get 4
    let isParity := c4 == parityComponent
    modify fun info => { info with isParity := isParity }
    if isParity && name.size > 5 then do
      let c5 ← name.get 5
      setSegNo w c5
    else if isParity then pure false
    else setSegNo w c4
  else pure false

/-- The video sample grammar of `extractVideoStreamInfo`
(`name-components.cpp:234-265`): `(d|k)/<seq>[/_parity]/<seg>` after the
thread component. -/
def videoSample (name : Name) : Parse Bool := do
  let c2 ← name.get 2
  if c2 == deltaComponent || c2 == keyComponent then do
    modify fun info => { info with isDelta := c2 == deltaComponent }
    tryCatch (do readSampleNo w 3 name; videoSegment w name) catchRuntimeError
  else pure false

/-- The rest of the audio `try` block (`name-components.cpp:299-303`). -/
def audioSegment (name : Name) : Parse Bool :=
  if name.size > 3 then do
    let c3 ← name.get 3
    setSegNo w c3
  else pure false

/-- The audio sample grammar of `extractAudioStreamInfo`
(`name-components.cpp:292-308`): `<seq>/<seg>` after the thread component. -/
def audioSample (name : Name) : Parse Bool := do
  modify fun info => { info with isDelta := true }
  tryCatch (do readSampleNo w 2 name; audioSegment w name) catchRuntimeError

/-- `extractVideoStreamInfo` (`name-components.cpp:213`). -/
def extractVideoStreamInfo : Name → Parse Bool := extractStreamInfo w (videoSample w)

/-- `extractAudioStreamInfo` (`name-components.cpp:271`). -/
def extractAudioStreamInfo : Name → Parse Bool := extractStreamInfo w (audioSample w)

/-- The marker scan of `extractInfo`,
`for (i = name.size()-2; i > 0 && !goodName; --i)`, entered at index `i`. When
`ndnrtcSubName.match(name.getSubName(i))` holds it stops with that `subName`
and the decremented `i`; at `i = 0` it gives up. -/
def scanApp (name : Name) : Nat → Option (Name × Nat)
  | 0 => none
  | i + 1 =>
    if Name.nameMatch [appComponent] (name.getSubNameFrom (i + 1)) then
      some (name.getSubNameFrom (i + 1), i)
    else scanApp name i

/-- Where the scan starts, `i = name.size()-2` with `int i`: the `size_t` difference
narrowed to the low 32 bits of an `int`, as GCC converts. A negative start fails
`i > 0` at once, as `0` does. Below two components the difference wraps to the top
of `size_t`, whose low 32 bits are negative as an `int`; `Nat` subtraction gives `0`
there, with the same effect. From `2^31 + 2` components on, the start is no longer
`name.size()-2`. -/
def scanStart (size : Nat) : Nat :=
  let i := (size - 2) % 4294967296
  if i < 2147483648 then i else 0

/-- `NameComponents::extractInfo` (`name-components.cpp:314`). Below three
components the scan starts at `0` or below and does not run. -/
def extractInfo (name : Name) : Parse Bool :=
  match scanApp name (scanStart name.size) with
  | none => pure false
  | some (subName, i) => do
    modify fun info => { info with basePrefix := name.getSubName 0 (i + 1) }
    let c1 ← subName.get 1
    if c1.isVersion then do
      let v ← c1.toVersion
      modify fun info => { info with apiVersion := toUnsigned w.apiVersion v }
      if subName.size > 2 then do
        let c2 ← subName.get 2
        if c2 == .generic NameComponentAudio || c2 == .generic NameComponentVideo then do
          let type := if c2 == .generic NameComponentAudio then MediaStreamType.audio else .video
          modify fun info => { info with streamType := type }
          if type = .audio then extractAudioStreamInfo w (subName.getSubNameFrom 3)
          else extractVideoStreamInfo w (subName.getSubNameFrom 3)
        else pure false
      else pure false
    else pure false

end

end NdnRtc
