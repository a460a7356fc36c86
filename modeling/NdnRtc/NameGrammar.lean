/-
The NDN-RTC name grammar of the spec (§3), as the specification side the parser
is compared with:

    <base>/ndnrtc/<api-version>/(audio|video)/<stream>/
        ( <thread>/(d|k)/<seqno>[/_parity]/<segno>      video sample
        | <thread>/<seqno>/<segno>                      audio sample
        | [<thread>/]_meta/<version>/<segno> )          stream or thread meta

The `_live` and `_latest` branches of §3 are not parsed by `extractInfo` at all
and are left out. A grammar name is built with the code's own
`NameComponents::streamPrefix`, so a round trip through the parser is a round
trip between the two halves of `name-components.cpp`.

`StreamSuffix.apply` is what a name of the grammar states about each field of
`NamespaceInfo`: the fields it does not state are left as they were.
-/
import NdnRtc.NamespaceInfo

set_option autoImplicit false

namespace NdnRtc

open NameComponents

/-- What follows `<stream>` in a name of the grammar. -/
inductive StreamSuffix where
  /-- Stream meta, `_meta/<version>/<segno>`. -/
  | streamMeta (metaVersion segNo : Nat)
  /-- Thread meta, `<thread>/_meta/<version>/<segno>`. -/
  | threadMeta (thread : Component) (metaVersion segNo : Nat)
  /-- A video sample segment, `<thread>/(d|k)/<seqno>[/_parity]/<segno>`. -/
  | video (thread : Component) (isDelta : Bool) (sampleNo : Nat) (isParity : Bool) (segNo : Nat)
  /-- An audio sample segment, `<thread>/<seqno>/<segno>`. -/
  | audio (thread : Component) (sampleNo segNo : Nat)
  deriving DecidableEq, Repr

namespace StreamSuffix

/-- The components of the suffix. -/
def toName : StreamSuffix → Name
  | streamMeta mv m => [metaComponent, .version mv, .segment m]
  | threadMeta t mv m => [t, metaComponent, .version mv, .segment m]
  | video t d n p m =>
    t :: (if d then deltaComponent else keyComponent) :: .sequenceNumber n ::
      ((if p then [parityComponent] else []) ++ [.segment m])
  | audio t n m => [t, .sequenceNumber n, .segment m]

/-- Whether the suffix belongs under a stream of this type: samples under their
own type, meta under either. -/
def fitsType : StreamSuffix → MediaStreamType → Bool
  | video .., type => type = .video
  | audio .., type => type = .audio
  | _, _ => true

/-- The thread component, where the suffix has one. -/
def thread : StreamSuffix → Option Component
  | streamMeta _ _ => none
  | threadMeta t _ _ => some t
  | video t _ _ _ _ => some t
  | audio t _ _ => some t

/-- The numbers of the suffix as the fields of `NamespaceInfo` hold them. -/
def narrow (w : FieldWidths) : StreamSuffix → StreamSuffix
  | streamMeta mv m => streamMeta (toUnsigned w.metaVersion mv) (toUnsigned w.segNo m)
  | threadMeta t mv m => threadMeta t (toUnsigned w.metaVersion mv) (toUnsigned w.segNo m)
  | video t d n p m => video t d (toUnsigned w.sampleNo n) p (toUnsigned w.segNo m)
  | audio t n m => audio t (toUnsigned w.sampleNo n) (toUnsigned w.segNo m)

/-- The fields a suffix states, written over `info`. -/
def apply : StreamSuffix → NamespaceInfo → NamespaceInfo
  | streamMeta mv m, info =>
    { info with isMeta := true, threadName := "", metaVersion := mv, segNo := m }
  | threadMeta t mv m, info =>
    { info with threadName := t.toEscapedString, isMeta := true, metaVersion := mv, segNo := m }
  | video t d n p m, info =>
    { info with threadName := t.toEscapedString, isMeta := false, isDelta := d,
                sampleNo := n, isParity := p, segNo := m }
  | audio t n m, info =>
    { info with threadName := t.toEscapedString, isMeta := false, isDelta := true,
                sampleNo := n, segNo := m }

end StreamSuffix

/-- The part of a stream or thread meta name before its segment number,
`[<thread>/]_meta/<version>`. -/
def metaHead : Option Component → Nat → Name
  | none, mv => [metaComponent, .version mv]
  | some t, mv => [t, metaComponent, .version mv]

/-- The grammar name `<base>/ndnrtc/<v>/<type>/<stream>/<suffix>`. -/
def grammarName (nameApiVersion : Nat) (type : MediaStreamType) (basePrefix : Name)
    (stream : Component) (sfx : StreamSuffix) : Name :=
  streamPrefix nameApiVersion type basePrefix ++ stream :: sfx.toName

/-- The fields a grammar name states, written over `info`. -/
def grammarInfo (basePrefix : Name) (apiVersion : Nat) (type : MediaStreamType)
    (stream : Component) (sfx : StreamSuffix) (info : NamespaceInfo) : NamespaceInfo :=
  sfx.apply { info with basePrefix := basePrefix, apiVersion := apiVersion, streamType := type,
                        streamName := stream.toEscapedString }

end NdnRtc
