/-
What each part of `extractInfo` does, one lemma per part, so that the results
about the whole parser (`NameRoundTrip`, `ParserFaults`) never unfold it.

Every part is described two ways. A *forward* lemma runs it on a name of the
grammar and gives the out-parameter it leaves; a *shape* lemma goes back from
"the call returned `true`" (or "the call threw") to the form of the name. The
shape lemmas look only at the returned value, because that is all that decides
the form of the name; the out-parameter is then read off the forward lemma.
-/
import NdnRtc.NameGrammar

set_option autoImplicit false

namespace NdnRtc

open NameComponents

/-! ## The constant components, as simp sees them -/

@[simp] theorem metaComponent_eq : metaComponent = .generic "_meta" := rfl
@[simp] theorem deltaComponent_eq : deltaComponent = .generic "d" := rfl
@[simp] theorem keyComponent_eq : keyComponent = .generic "k" := rfl
@[simp] theorem parityComponent_eq : parityComponent = .generic "_parity" := rfl
@[simp] theorem appComponent_eq : appComponent = .generic "ndnrtc" := rfl
@[simp] theorem audioComponent_eq : Component.generic NameComponentAudio = .generic "audio" := rfl
@[simp] theorem videoComponent_eq : Component.generic NameComponentVideo = .generic "video" := rfl
@[simp] theorem Component.beq_eq (a b : Component) : (a == b) = decide (a = b) := rfl

@[simp] theorem streamTypeComponent_audio :
    streamTypeComponent .audio = .generic "audio" := rfl
@[simp] theorem streamTypeComponent_video :
    streamTypeComponent .video = .generic "video" := rfl

/-- The handler of both `try` blocks never reports success. -/
theorem catchRuntimeError_fst (e : Fault) (info : NamespaceInfo) :
    (catchRuntimeError e info).1 = if e = .runtimeError then .ok false else .error e := by
  unfold catchRuntimeError; split <;> rfl

section
variable (w : FieldWidths)

/-! ## `setSegNo` and `extractMeta` -/

@[simp] theorem setSegNo_segment (s : Nat) (info : NamespaceInfo) :
    setSegNo w (.segment s) info = (.ok true, { info with segNo := toUnsigned w.segNo s }) := rfl

/-- `setSegNo` succeeds exactly on a segment component, and otherwise throws
`std::runtime_error` with the out-parameter untouched. -/
theorem setSegNo_eq (c : Component) (info : NamespaceInfo) :
    setSegNo w c info = match c with
      | .segment s => (.ok true, { info with segNo := toUnsigned w.segNo s })
      | _ => (.error .runtimeError, info) := by
  cases c <;> rfl

/-- `extractMeta` on every name: it accepts `<version>/<segment>/…`, throws
when a version is followed by anything but a segment, and otherwise returns
`false` without a write. -/
theorem extractMeta_eq (name : Name) (info : NamespaceInfo) :
    extractMeta w name info =
      match name with
      | .version v :: c :: _ =>
        setSegNo w c { info with metaVersion := toUnsigned w.metaVersion v }
      | _ => (.ok false, info) := by
  match name with
  | [] | [_] => simp [extractMeta]
  | c0 :: c1 :: rest => cases c0 <;> simp [extractMeta]

/-- On anything but a segment, `toSegment` throws before the store. -/
theorem setSegNo_of_ne (c : Component) (h : ∀ s, c ≠ .segment s) (info : NamespaceInfo) :
    setSegNo w c info = (.error .runtimeError, info) := by
  cases c <;> first | rfl | exact absurd rfl (h _)

/-! ## The sample grammars

The two `try` blocks are taken apart statement by statement: `readSampleNo`
either stores the sequence number or throws, and the segment statements end
in `setSegNo`. -/

/-- A sequence number in place is stored. -/
theorem readSampleNo_seq (i : Nat) (name : Name) (n : Nat)
    (h : name[i]? = some (.sequenceNumber n)) (info : NamespaceInfo) :
    readSampleNo w i name info = (.ok (), { info with sampleNo := toUnsigned w.sampleNo n }) := by
  have hi : i < name.length := (List.getElem?_eq_some_iff.mp h).1
  simp [readSampleNo, hi, Name.get, List.get?_eq_getElem?, h]

/-- Anything else in place makes `toSequenceNumber` throw. -/
theorem readSampleNo_of_ne (i : Nat) (name : Name) (c : Component) (h : name[i]? = some c)
    (hc : ∀ n, c ≠ .sequenceNumber n) (info : NamespaceInfo) :
    readSampleNo w i name info = (.error .runtimeError, info) := by
  have hi : i < name.length := (List.getElem?_eq_some_iff.mp h).1
  cases c <;> first
    | exact absurd rfl (hc _)
    | simp [readSampleNo, hi, Name.get, List.get?_eq_getElem?, h, Component.toSequenceNumber]

theorem videoSegment_short (c0 c1 c2 c3 : Component) (info : NamespaceInfo) :
    videoSegment w [c0, c1, c2, c3] info = (.ok false, info) := by
  simp [videoSegment]

theorem videoSegment_parity_nil (c0 c1 c2 c3 : Component) (info : NamespaceInfo) :
    videoSegment w [c0, c1, c2, c3, parityComponent] info =
      (.ok false, { info with isParity := true }) := by
  simp [videoSegment]

theorem videoSegment_parity_cons (c0 c1 c2 c3 c5 : Component) (rest : Name)
    (info : NamespaceInfo) :
    videoSegment w (c0 :: c1 :: c2 :: c3 :: parityComponent :: c5 :: rest) info =
      setSegNo w c5 { info with isParity := true } := by
  simp [videoSegment]

theorem videoSegment_of_ne (c0 c1 c2 c3 c4 : Component) (rest : Name)
    (h : c4 ≠ parityComponent) (info : NamespaceInfo) :
    videoSegment w (c0 :: c1 :: c2 :: c3 :: c4 :: rest) info =
      setSegNo w c4 { info with isParity := false } := by
  simp only [parityComponent_eq] at h
  simp [videoSegment, h]

/-- The video sample grammar accepts `(d|k)/<seq>[/_parity]/<seg>` and stores
its flags and numbers. -/
theorem videoSample_video (c0 t : Component) (d : Bool) (n : Nat) (p : Bool) (m : Nat)
    (rest : Name) (info : NamespaceInfo) :
    videoSample w (c0 :: (StreamSuffix.video t d n p m).toName ++ rest) info =
      (.ok true, { info with isDelta := d, sampleNo := toUnsigned w.sampleNo n, isParity := p,
                             segNo := toUnsigned w.segNo m }) := by
  cases d <;> cases p <;> simp [videoSample, StreamSuffix.toName, readSampleNo, videoSegment]

/-- On a name of at least four components the video sample grammar never throws:
it returns `false`, or the name is `(d|k)/<seq>[/_parity]/<seg>` after the
thread. Every conversion it makes is inside the `try`, and every read is
guarded by a size check. -/
theorem videoSample_fst (c0 c1 c2 c3 : Component) (rest : Name) (info : NamespaceInfo) :
    (videoSample w (c0 :: c1 :: c2 :: c3 :: rest) info).1 = .ok false ∨
      ∃ d n p m rest', c1 :: c2 :: c3 :: rest = (StreamSuffix.video c1 d n p m).toName ++ rest' := by
  by_cases hdk : c2 = deltaComponent ∨ c2 = keyComponent
  swap
  · simp only [deltaComponent_eq, keyComponent_eq] at hdk
    simp [videoSample, hdk]
  have hc : (decide (c2 = .generic "d") || decide (c2 = .generic "k")) = true := by simpa using hdk
  simp only [videoSample, Parse.bind_apply, Parse.lift_apply, Name.get_cons_zero,
    Name.get_cons_succ, Component.beq_eq, Parse.tryCatch_apply, Parse.modify_apply,
    Parse.ite_apply, deltaComponent_eq, keyComponent_eq, hc, if_true]
  have shape : ∀ (n : Nat) (p : Bool) (m : Nat) (rest' : Name),
      c3 :: rest = .sequenceNumber n :: ((if p then [parityComponent] else []) ++ .segment m :: rest') →
      ∃ d n p m rest', c1 :: c2 :: c3 :: rest = (StreamSuffix.video c1 d n p m).toName ++ rest' := by
    intro n p m rest' h
    refine ⟨decide (c2 = deltaComponent), n, p, m, rest', ?_⟩
    rcases hdk with rfl | rfl <;> simp [StreamSuffix.toName, h]
  by_cases hs : ∃ n, c3 = .sequenceNumber n
  swap
  · rw [readSampleNo_of_ne w 3 _ c3 (by simp) (fun n h => hs ⟨n, h⟩)]
    exact .inl rfl
  obtain ⟨n, rfl⟩ := hs
  rw [readSampleNo_seq w 3 _ n (by simp)]
  dsimp only
  rcases rest with _ | ⟨c4, rest⟩
  · rw [videoSegment_short]; exact .inl rfl
  by_cases hp : c4 = parityComponent
  · subst hp
    rcases rest with _ | ⟨c5, rest⟩
    · rw [videoSegment_parity_nil]; exact .inl rfl
    rw [videoSegment_parity_cons]
    by_cases hm : ∃ m, c5 = .segment m
    · obtain ⟨m, rfl⟩ := hm
      exact .inr (shape n true m rest (by simp))
    · rw [setSegNo_of_ne w c5 (fun m h => hm ⟨m, h⟩)]; exact .inl rfl
  · rw [videoSegment_of_ne w _ _ _ _ _ _ hp]
    by_cases hm : ∃ m, c4 = .segment m
    · obtain ⟨m, rfl⟩ := hm
      exact .inr (shape n false m rest (by simp))
    · rw [setSegNo_of_ne w c4 (fun m h => hm ⟨m, h⟩)]; exact .inl rfl

/-- The audio sample grammar accepts `<seq>/<seg>`; it marks the sample a
delta and leaves `isParity` as it was. -/
theorem audioSample_audio (c0 t : Component) (n m : Nat) (rest : Name) (info : NamespaceInfo) :
    audioSample w (c0 :: (StreamSuffix.audio t n m).toName ++ rest) info =
      (.ok true, { info with isDelta := true, sampleNo := toUnsigned w.sampleNo n,
                             segNo := toUnsigned w.segNo m }) := by
  simp [audioSample, StreamSuffix.toName, readSampleNo, audioSegment]

/-- On a name of at least four components the audio sample grammar never throws:
it returns `false`, or the name is `<seq>/<seg>` after the thread. -/
theorem audioSample_fst (c0 c1 c2 c3 : Component) (rest : Name) (info : NamespaceInfo) :
    (audioSample w (c0 :: c1 :: c2 :: c3 :: rest) info).1 = .ok false ∨
      ∃ n m, c1 :: c2 :: c3 :: rest = (StreamSuffix.audio c1 n m).toName ++ rest := by
  simp only [audioSample, Parse.bind_apply, Parse.tryCatch_apply, Parse.modify_apply]
  by_cases hs : ∃ n, c2 = .sequenceNumber n
  swap
  · rw [readSampleNo_of_ne w 2 _ c2 (by simp) (fun n h => hs ⟨n, h⟩)]
    exact .inl rfl
  obtain ⟨n, rfl⟩ := hs
  rw [readSampleNo_seq w 2 _ n (by simp)]
  dsimp only
  simp only [audioSegment, Name.size_eq, List.length_cons, Parse.ite_apply, Parse.bind_apply,
    Parse.lift_apply, Name.get_cons_zero, Name.get_cons_succ]
  rw [if_pos (by omega)]
  by_cases hm : ∃ m, c3 = .segment m
  · obtain ⟨m, rfl⟩ := hm
    exact .inr ⟨n, m, by simp [StreamSuffix.toName]⟩
  · rw [setSegNo_of_ne w c3 (fun m h => hm ⟨m, h⟩)]; exact .inl rfl

theorem extractMeta_version (mv : Nat) (c : Component) (rest : Name) (info : NamespaceInfo) :
    extractMeta w (.version mv :: c :: rest) info =
      setSegNo w c { info with metaVersion := toUnsigned w.metaVersion mv } := by
  rw [extractMeta_eq]

/-- `extractMeta` returns `true` only on `<version>/<segment>/…`. -/
theorem extractMeta_shape (name : Name) (info : NamespaceInfo)
    (h : (extractMeta w name info).1 = .ok true) :
    ∃ mv m rest, name = .version mv :: .segment m :: rest := by
  rw [extractMeta_eq] at h
  match name with
  | [] | [_] => simp at h
  | c0 :: c1 :: rest =>
    cases c0 <;> try cases h
    cases c1 <;> first | exact ⟨_, _, rest, rfl⟩ | cases h

/-! ## The shared stream half -/

/-- `extractStreamInfo` on a name of at least four components: the stream meta
branch, the thread meta branch, and the hand-over to `sample`. -/
theorem extractStreamInfo_cons (sample : Name → Parse Bool) (c0 c1 c2 c3 : Component)
    (rest : Name) (info : NamespaceInfo) :
    extractStreamInfo w sample (c0 :: c1 :: c2 :: c3 :: rest) info =
      if c1 = metaComponent then
        extractMeta w (c2 :: c3 :: rest)
          { info with streamName := c0.toEscapedString, isMeta := true, threadName := "" }
      else
        let info' := { info with streamName := c0.toEscapedString, threadName := c1.toEscapedString,
                                 isMeta := decide (c2 = metaComponent) }
        if c2 = metaComponent then
          match extractMeta w (c3 :: rest) info' with
          | (.ok true, info'') => (.ok true, info'')
          | (.ok false, info'') => sample (c0 :: c1 :: c2 :: c3 :: rest) info''
          | (.error e, info'') => (.error e, info'')
        else sample (c0 :: c1 :: c2 :: c3 :: rest) info' := by
  simp only [extractStreamInfo, Name.size_eq, List.length_cons, Parse.ite_apply, Parse.bind_apply,
    Parse.lift_apply, Name.get_cons_zero, Name.get_cons_succ, Parse.modify_apply, Component.beq_eq,
    Name.getSubNameFrom_eq, List.drop_succ_cons, List.drop_zero, decide_eq_true_eq]
  rw [if_neg (by omega)]
  by_cases h1 : c1 = metaComponent
  · simp only [h1, if_true, decide_True]
  by_cases h2 : c2 = metaComponent
  · simp only [h1, h2, if_true, if_false, decide_True]
    generalize extractMeta w (c3 :: rest) _ = r
    rcases r with ⟨e | _ | _, i⟩ <;> rfl
  · simp only [h1, h2, if_false, decide_False]

/-- Below four components the shared half returns `false` at once. -/
theorem extractStreamInfo_short (sample : Name → Parse Bool) (name : Name)
    (info : NamespaceInfo) (h : name.length < 4) :
    extractStreamInfo w sample name info = (.ok false, info) := by
  simp [extractStreamInfo, h]

/-- The stream meta branch accepts `_meta/<version>/<seg>` whatever the sample
grammar. -/
theorem extractStreamInfo_streamMeta (sample : Name → Parse Bool) (s : Component) (mv m : Nat)
    (rest : Name) (info : NamespaceInfo) :
    extractStreamInfo w sample (s :: (StreamSuffix.streamMeta mv m).toName ++ rest) info =
      (.ok true, ((StreamSuffix.streamMeta mv m).narrow w).apply
        { info with streamName := s.toEscapedString }) := by
  simp [StreamSuffix.toName, extractStreamInfo_cons, extractMeta_eq, StreamSuffix.narrow,
    StreamSuffix.apply]

/-- The thread meta branch accepts `<thread>/_meta/<version>/<seg>` for a
thread other than `_meta`. -/
theorem extractStreamInfo_threadMeta (sample : Name → Parse Bool) (s t : Component) (mv m : Nat)
    (rest : Name) (ht : t ≠ metaComponent) (info : NamespaceInfo) :
    extractStreamInfo w sample (s :: (StreamSuffix.threadMeta t mv m).toName ++ rest) info =
      (.ok true, ((StreamSuffix.threadMeta t mv m).narrow w).apply
        { info with streamName := s.toEscapedString }) := by
  rw [metaComponent_eq] at ht
  simp [StreamSuffix.toName, extractStreamInfo_cons, extractMeta_eq, StreamSuffix.narrow,
    StreamSuffix.apply, ht]

/-- With neither the second nor the third component `_meta`, the name goes to
the sample grammar with the stream and thread names written. -/
theorem extractStreamInfo_sample (sample : Name → Parse Bool) (c0 c1 c2 c3 : Component)
    (rest : Name) (h1 : c1 ≠ metaComponent) (h2 : c2 ≠ metaComponent) (info : NamespaceInfo) :
    extractStreamInfo w sample (c0 :: c1 :: c2 :: c3 :: rest) info =
      sample (c0 :: c1 :: c2 :: c3 :: rest)
        { info with streamName := c0.toEscapedString, threadName := c1.toEscapedString,
                    isMeta := false } := by
  rw [extractStreamInfo_cons, if_neg h1, if_neg h2]
  simp only [metaComponent_eq] at h2
  simp [h2]

/-- **What the shared half can end in**, on four components or more: what
`extractMeta` ends in on the stream meta branch; what it ends in on the thread
meta branch, unless that is `false`; or what the sample grammar ends in. -/
theorem extractStreamInfo_fst_cases (sample : Name → Parse Bool) (c0 c1 c2 c3 : Component)
    (rest : Name) (info : NamespaceInfo) :
    (c1 = metaComponent ∧ ∃ info', (extractStreamInfo w sample (c0 :: c1 :: c2 :: c3 :: rest) info).1 =
        (extractMeta w (c2 :: c3 :: rest) info').1) ∨
      (c1 ≠ metaComponent ∧ c2 = metaComponent ∧
        (extractStreamInfo w sample (c0 :: c1 :: c2 :: c3 :: rest) info).1 ≠ .ok false ∧
        ∃ info', (extractStreamInfo w sample (c0 :: c1 :: c2 :: c3 :: rest) info).1 =
          (extractMeta w (c3 :: rest) info').1) ∨
      (c1 ≠ metaComponent ∧ ∃ info', (extractStreamInfo w sample (c0 :: c1 :: c2 :: c3 :: rest) info).1 =
        (sample (c0 :: c1 :: c2 :: c3 :: rest) info').1) := by
  rw [extractStreamInfo_cons]
  by_cases h1 : c1 = metaComponent
  · exact .inl ⟨h1, _, by rw [if_pos h1]⟩
  rw [if_neg h1]
  by_cases h2 : c2 = metaComponent
  · rw [if_pos h2]
    generalize hm : extractMeta w (c3 :: rest) _ = m
    rcases m with ⟨e | _ | _, i⟩
    · exact .inr (.inl ⟨h1, h2, nofun, _, (congrArg Prod.fst hm).symm⟩)
    · exact .inr (.inr ⟨h1, i, rfl⟩)
    · exact .inr (.inl ⟨h1, h2, nofun, _, (congrArg Prod.fst hm).symm⟩)
  · rw [if_neg h2]
    exact .inr (.inr ⟨h1, _, rfl⟩)

/-- Shape of a name the shared half accepts: a stream or thread meta suffix, or
a suffix the sample grammar accepts, under a thread other than `_meta`. -/
theorem extractStreamInfo_shape (sample : Name → Parse Bool) (type : MediaStreamType)
    (hsample : ∀ c0 c1 c2 c3 rest info,
      (sample (c0 :: c1 :: c2 :: c3 :: rest) info).1 = .ok false ∨
        ∃ (sfx : StreamSuffix) (rest' : Name), c1 :: c2 :: c3 :: rest = sfx.toName ++ rest' ∧
          sfx.fitsType type ∧ sfx.thread = some c1)
    (name : Name) (info : NamespaceInfo) (h : (extractStreamInfo w sample name info).1 = .ok true) :
    ∃ (s : Component) (sfx : StreamSuffix) (rest : Name), name = s :: sfx.toName ++ rest ∧
      sfx.fitsType type ∧ sfx.thread ≠ some metaComponent := by
  match name with
  | [] | [_] | [_, _] | [_, _, _] => simp [extractStreamInfo_short] at h
  | c0 :: c1 :: c2 :: c3 :: rest =>
    rcases extractStreamInfo_fst_cases w sample c0 c1 c2 c3 rest info with
      ⟨rfl, i, hr⟩ | ⟨h1, rfl, -, i, hr⟩ | ⟨h1, i, hr⟩
    · obtain ⟨mv, m, rest', hn⟩ := extractMeta_shape w _ i (hr.symm.trans h)
      simp only [List.cons.injEq] at hn
      obtain ⟨rfl, rfl, rfl⟩ := hn
      exact ⟨c0, .streamMeta mv m, rest, rfl, rfl, by simp [StreamSuffix.thread]⟩
    · obtain ⟨mv, m, rest', hn⟩ := extractMeta_shape w _ i (hr.symm.trans h)
      simp only [List.cons.injEq] at hn
      obtain ⟨rfl, rfl⟩ := hn
      exact ⟨c0, .threadMeta c1 mv m, rest', rfl, rfl, by simpa [StreamSuffix.thread] using h1⟩
    · obtain h' | ⟨sfx, rest', hn, hfit, hth⟩ := hsample c0 c1 c2 c3 rest i
      · rw [← hr, h] at h'
        cases h'
      · exact ⟨c0, sfx, rest', by simp [hn], hfit, by rw [hth]; simpa using h1⟩

/-! ## The two stream helpers -/

/-- `extractVideoStreamInfo` accepts every suffix of a video stream whose thread
is not `_meta`, and writes what the suffix states. -/
theorem extractVideoStreamInfo_toName (s : Component) (sfx : StreamSuffix) (rest : Name)
    (hfit : sfx.fitsType .video) (hthread : sfx.thread ≠ some metaComponent)
    (info : NamespaceInfo) :
    extractVideoStreamInfo w (s :: sfx.toName ++ rest) info =
      (.ok true, (sfx.narrow w).apply { info with streamName := s.toEscapedString }) := by
  cases sfx with
  | streamMeta mv m => exact extractStreamInfo_streamMeta w _ s mv m rest info
  | threadMeta t mv m =>
    exact extractStreamInfo_threadMeta w _ s t mv m rest (by simpa [StreamSuffix.thread] using hthread) info
  | video t d n p m =>
    have ht : t ≠ metaComponent := by simpa [StreamSuffix.thread] using hthread
    have hdk : (if d then deltaComponent else keyComponent) ≠ metaComponent := by cases d <;> decide
    rw [extractVideoStreamInfo, show s :: (StreamSuffix.video t d n p m).toName ++ rest =
      s :: t :: (if d then deltaComponent else keyComponent) :: .sequenceNumber n ::
        ((if p then [parityComponent] else []) ++ .segment m :: rest) by simp [StreamSuffix.toName],
      extractStreamInfo_sample w _ _ _ _ _ _ ht hdk]
    have := videoSample_video w s t d n p m rest
      { info with streamName := s.toEscapedString, threadName := t.toEscapedString, isMeta := false }
    simp only [StreamSuffix.toName, List.cons_append, List.append_assoc, List.nil_append] at this
    rw [this]
    rfl
  | audio => simp [StreamSuffix.fitsType] at hfit

/-- `extractAudioStreamInfo` accepts every suffix of an audio stream whose thread
is not `_meta`, and writes what the suffix states. -/
theorem extractAudioStreamInfo_toName (s : Component) (sfx : StreamSuffix) (rest : Name)
    (hfit : sfx.fitsType .audio) (hthread : sfx.thread ≠ some metaComponent)
    (info : NamespaceInfo) :
    extractAudioStreamInfo w (s :: sfx.toName ++ rest) info =
      (.ok true, (sfx.narrow w).apply { info with streamName := s.toEscapedString }) := by
  cases sfx with
  | streamMeta mv m => exact extractStreamInfo_streamMeta w _ s mv m rest info
  | threadMeta t mv m =>
    exact extractStreamInfo_threadMeta w _ s t mv m rest (by simpa [StreamSuffix.thread] using hthread) info
  | video => simp [StreamSuffix.fitsType] at hfit
  | audio t n m =>
    have ht : t ≠ metaComponent := by simpa [StreamSuffix.thread] using hthread
    rw [extractAudioStreamInfo, show s :: (StreamSuffix.audio t n m).toName ++ rest =
      s :: t :: .sequenceNumber n :: .segment m :: rest by simp [StreamSuffix.toName],
      extractStreamInfo_sample w _ _ _ _ _ _ ht (by simp)]
    have := audioSample_audio w s t n m rest
      { info with streamName := s.toEscapedString, threadName := t.toEscapedString, isMeta := false }
    simp only [StreamSuffix.toName, List.cons_append, List.nil_append] at this
    rw [this]
    rfl

/-- Shape of a name `extractVideoStreamInfo` accepts. -/
theorem extractVideoStreamInfo_shape (name : Name) (info : NamespaceInfo)
    (h : (extractVideoStreamInfo w name info).1 = .ok true) :
    ∃ (s : Component) (sfx : StreamSuffix) (rest : Name), name = s :: sfx.toName ++ rest ∧
      sfx.fitsType .video ∧ sfx.thread ≠ some metaComponent := by
  refine extractStreamInfo_shape w _ .video (fun c0 c1 c2 c3 rest info => ?_) name info h
  obtain h' | ⟨d, n, p, m, rest', hn⟩ := videoSample_fst w c0 c1 c2 c3 rest info
  · exact .inl h'
  · exact .inr ⟨.video c1 d n p m, rest', hn, rfl, rfl⟩

/-- Shape of a name `extractAudioStreamInfo` accepts. -/
theorem extractAudioStreamInfo_shape (name : Name) (info : NamespaceInfo)
    (h : (extractAudioStreamInfo w name info).1 = .ok true) :
    ∃ (s : Component) (sfx : StreamSuffix) (rest : Name), name = s :: sfx.toName ++ rest ∧
      sfx.fitsType .audio ∧ sfx.thread ≠ some metaComponent := by
  refine extractStreamInfo_shape w _ .audio (fun c0 c1 c2 c3 rest info => ?_) name info h
  obtain h' | ⟨n, m, hn⟩ := audioSample_fst w c0 c1 c2 c3 rest info
  · exact .inl h'
  · exact .inr ⟨.audio c1 n m, rest, hn, rfl, rfl⟩

/-! ## The marker scan -/

/-- The scan never starts past `name.size()-2`. -/
theorem scanStart_le (size : Nat) : scanStart size ≤ size - 2 := by
  unfold scanStart; dsimp only; split <;> omega

/-- **The narrowing is exact below `2^31 + 2` components**: there the scan starts at
`name.size()-2`. -/
theorem scanStart_of_lt (size : Nat) (h : size < 2147483650) : scanStart size = size - 2 := by
  unfold scanStart; dsimp only; split <;> omega

theorem nameMatch_app (l : Name) :
    Name.nameMatch [appComponent] l = true ↔ l.head? = some appComponent := by
  cases l with
  | nil => simp [Name.nameMatch, List.isPrefixOf]
  | cons c l => simpa [Name.nameMatch, List.isPrefixOf] using eq_comm

/-- Inversion of the scan: where it stops, the component is the marker, and no
marker stands between there and where it started. -/
theorem scanApp_eq_some (name sub : Name) (i j : Nat) (h : scanApp name i = some (sub, j)) :
    j < i ∧ sub = name.drop (j + 1) ∧ name[j + 1]? = some appComponent ∧
      ∀ k, j + 1 < k → k ≤ i → name[k]? ≠ some appComponent := by
  induction i with
  | zero => simp [scanApp] at h
  | succ i ih =>
    simp only [scanApp, Name.getSubNameFrom_eq] at h
    split at h
    · rename_i hm
      simp only [Option.some.injEq, Prod.mk.injEq] at h
      obtain ⟨rfl, rfl⟩ := h
      rw [nameMatch_app, List.head?_drop] at hm
      exact ⟨by omega, rfl, hm, fun k hk hk' => by omega⟩
    · rename_i hm
      rw [nameMatch_app, List.head?_drop] at hm
      obtain ⟨hj, hsub, happ, hrest⟩ := ih h
      refine ⟨by omega, hsub, happ, fun k hk hk' => ?_⟩
      rcases Nat.lt_or_ge k (i + 1) with hlt | hge
      · exact hrest k hk (by omega)
      · rwa [show k = i + 1 by omega]

/-- A component before the last one of `tl` is not the marker. -/
theorem getElem?_ne_app (tl : Name) (happ : appComponent ∉ tl.dropLast) (k : Nat)
    (hk : k + 1 < tl.length) : tl[k]? ≠ some appComponent := by
  intro h
  have hd : tl.dropLast[k]? = some appComponent := by
    rw [List.getElem?_dropLast, if_pos (by omega), h]
  exact happ (List.getElem?_mem hd)

/-- The scan from any index between the marker and the end of the name stops at
the marker, when no marker follows it before the last component. -/
theorem scanApp_marker (B tl : Name) (b : Nat) (hb : B.length = b + 1)
    (happ : appComponent ∉ tl.dropLast) :
    ∀ k, k < tl.length →
      scanApp (B ++ appComponent :: tl) (b + 1 + k) = some (appComponent :: tl, b) := by
  intro k
  induction k with
  | zero =>
    intro _
    rw [Nat.add_zero, scanApp, if_pos] <;>
      simp only [nameMatch_app, Name.getSubNameFrom_eq, ← hb, List.drop_left, List.head?_cons]
  | succ k ih =>
    intro hk
    rw [← Nat.add_assoc, scanApp, if_neg, ih (by omega)]
    rw [nameMatch_app, Name.getSubNameFrom_eq, List.head?_drop, ← hb,
      List.getElem?_append_right (by omega)]
    rw [show B.length + k + 1 - B.length = k + 1 by omega, List.getElem?_cons_succ]
    exact getElem?_ne_app tl happ k (by omega)

/-- Where the scan stops, from any start short of the last component: the name
splits at a marker with a non-empty base prefix before it. From `name.size()-2`,
no marker follows it but in the last place. -/
theorem scanApp_split (name sub : Name) (i j : Nat) (hi : i ≤ name.length - 2)
    (h : scanApp name i = some (sub, j)) :
    ∃ B tl, name = B ++ appComponent :: tl ∧ B.length = j + 1 ∧ tl ≠ [] ∧
      sub = appComponent :: tl ∧ (i = name.length - 2 → appComponent ∉ tl.dropLast) := by
  obtain ⟨hj, hsub, happ, hnone⟩ := scanApp_eq_some name sub i j h
  obtain ⟨tl, htl⟩ : ∃ tl, name.drop (j + 1) = appComponent :: tl := by
    rw [← List.head?_drop] at happ
    cases hd : name.drop (j + 1) with
    | nil => simp [hd] at happ
    | cons c tl => simp only [hd, List.head?_cons, Option.some.injEq] at happ; exact ⟨tl, by rw [happ]⟩
  have hlen : tl.length + j + 2 = name.length := by
    have := congrArg List.length htl
    simp only [List.length_drop, List.length_cons] at this; omega
  refine ⟨name.take (j + 1), tl, by rw [← htl, List.take_append_drop],
    by rw [List.length_take]; omega, List.ne_nil_of_length_pos (by omega), hsub ▸ htl,
    fun hi' hmem => ?_⟩
  obtain ⟨k, hk⟩ := List.mem_iff_getElem?.mp hmem
  rw [List.getElem?_dropLast] at hk
  split at hk
  · have := hnone (j + 2 + k) (by omega) (by omega)
    rw [show j + 2 + k = (j + 1) + (k + 1) by omega, ← List.getElem?_drop, htl,
      List.getElem?_cons_succ] at this
    exact this hk
  · cases hk

/-- Below `2^31 + 2` components the scan of `extractInfo` stops at the last marker
before the final component, once there is one past index `0`. -/
theorem scanApp_app (B tl : Name) (hB : B ≠ []) (htl : tl ≠ [])
    (happ : appComponent ∉ tl.dropLast) (hlen : (B ++ appComponent :: tl).length < 2147483650) :
    scanApp (B ++ appComponent :: tl) (scanStart (B ++ appComponent :: tl).size) =
      some (appComponent :: tl, B.length - 1) := by
  obtain ⟨b, hb⟩ := Nat.exists_eq_succ_of_ne_zero (List.length_pos.mpr hB).ne'
  have htl' := List.length_pos.mpr htl
  have := scanApp_marker B tl b hb happ (tl.length - 1) (by omega)
  rw [show b + 1 + (tl.length - 1) = (B ++ appComponent :: tl).length - 2 by simp; omega] at this
  rw [Name.size_eq, scanStart_of_lt _ hlen, this, hb, Nat.succ_sub_one]

/-- What `extractInfo` does once the scan has stopped at a marker with a non-empty
base prefix before it: the base prefix is everything before it;
`<version>/(audio|video)` must follow, and the rest goes to the stream helper of
that type. -/
theorem extractInfo_marker (B tl : Name) (hB : B ≠ []) (htl : tl ≠ [])
    (hscan : scanApp (B ++ appComponent :: tl) (scanStart (B ++ appComponent :: tl).size) =
      some (appComponent :: tl, B.length - 1)) (info : NamespaceInfo) :
    extractInfo w (B ++ appComponent :: tl) info =
      match tl with
      | .version v :: c2 :: tl' =>
        let info' := { info with basePrefix := B, apiVersion := toUnsigned w.apiVersion v }
        if c2 = streamTypeComponent .audio then
          extractAudioStreamInfo w tl' { info' with streamType := .audio }
        else if c2 = streamTypeComponent .video then
          extractVideoStreamInfo w tl' { info' with streamType := .video }
        else (.ok false, info')
      | [.version v] =>
        (.ok false, { info with basePrefix := B, apiVersion := toUnsigned w.apiVersion v })
      | _ => (.ok false, { info with basePrefix := B }) := by
  have hbase : Name.getSubName (B ++ appComponent :: tl) 0 (B.length - 1 + 1) = B := by
    rw [Nat.sub_add_cancel (List.length_pos.mpr hB), Name.getSubName_zero, List.take_left]
  rw [extractInfo, hscan]
  dsimp only [Parse.bind_apply, Parse.modify_apply]
  rw [hbase]
  match tl with
  | [] => exact absurd rfl htl
  | .version v :: [] => simp
  | .version v :: c2 :: tl' =>
    by_cases ha : c2 = .generic "audio"
    · simp [ha]
    · by_cases hv : c2 = .generic "video" <;> simp [ha, hv]
  | .generic _ :: _ | .segment _ :: _ | .sequenceNumber _ :: _ | .other _ _ :: _ => rfl

/-- The version and the stream type are never the marker, so only what follows
them matters to the scan. -/
theorem app_not_mem_dropLast_marker (v : Nat) (type : MediaStreamType) (X : Name) :
    appComponent ∉ (.version v :: streamTypeComponent type :: X).dropLast ↔
      appComponent ∉ X.dropLast := by
  cases X <;> cases type <;> simp

theorem streamPrefix_append (v : Nat) (type : MediaStreamType) (B X : Name) :
    streamPrefix v type B ++ X = B ++ appComponent :: .version v :: streamTypeComponent type :: X := by
  simp only [streamPrefix, ndnrtcSuffix, List.append_assoc, List.cons_append, List.singleton_append,
    List.nil_append]
  rfl

/-- **`extractInfo` forward**: on a stream prefix over a non-empty base, with no
marker after it but in the last place, and below `2^31 + 2` components,
`extractInfo` hands the rest of the name to the stream helper of the prefix's type. -/
theorem extractInfo_streamPrefix (v : Nat) (type : MediaStreamType) (B X : Name) (hB : B ≠ [])
    (happ : appComponent ∉ X.dropLast) (hlen : (streamPrefix v type B ++ X).length < 2147483650)
    (info : NamespaceInfo) :
    extractInfo w (streamPrefix v type B ++ X) info =
      match type with
      | .audio => extractAudioStreamInfo w X
          { info with basePrefix := B, apiVersion := toUnsigned w.apiVersion v, streamType := .audio }
      | .video => extractVideoStreamInfo w X
          { info with basePrefix := B, apiVersion := toUnsigned w.apiVersion v, streamType := .video } := by
  rw [streamPrefix_append] at hlen ⊢
  rw [extractInfo_marker w B _ hB (List.cons_ne_nil _ _) (scanApp_app B _ hB (List.cons_ne_nil _ _)
    ((app_not_mem_dropLast_marker v type X).mpr happ) hlen)]
  cases type with
  | audio => exact if_pos rfl
  | video => exact (if_neg (by decide)).trans (if_pos rfl)

/-- **`extractInfo` inversion**: the call returns `false` whatever the out-parameter,
or the name is a stream prefix over a non-empty base and the call hands the rest to
the stream helper of the prefix's type, whatever the out-parameter. Below `2^31 + 2`
components, no marker follows the prefix but in the last place. -/
theorem extractInfo_cases (name : Name) :
    (∀ info, (extractInfo w name info).1 = .ok false) ∨
      ∃ (v : Nat) (type : MediaStreamType) (B X : Name),
        name = streamPrefix v type B ++ X ∧ B ≠ [] ∧
        (name.length < 2147483650 → appComponent ∉ X.dropLast) ∧
        ∀ info, extractInfo w name info =
          match type with
          | .audio => extractAudioStreamInfo w X
              { info with basePrefix := B, apiVersion := toUnsigned w.apiVersion v, streamType := .audio }
          | .video => extractVideoStreamInfo w X
              { info with basePrefix := B, apiVersion := toUnsigned w.apiVersion v, streamType := .video } := by
  cases hs : scanApp name (scanStart name.size) with
  | none => exact .inl fun info => by rw [extractInfo, hs]; rfl
  | some r =>
    obtain ⟨sub, j⟩ := r
    obtain ⟨B, tl, rfl, hB, htl, rfl, happ⟩ := scanApp_split name sub _ j (scanStart_le _) hs
    have hB' : B ≠ [] := List.ne_nil_of_length_pos (by omega)
    have hscan : scanApp (B ++ appComponent :: tl) (scanStart (B ++ appComponent :: tl).size) =
        some (appComponent :: tl, B.length - 1) := by rw [hs, hB, Nat.add_sub_cancel]
    match tl, htl, happ, hscan with
    | [], htl, _, _ => exact absurd rfl htl
    | [.version v], htl, _, hscan =>
      exact .inl fun info => by rw [extractInfo_marker w B _ hB' htl hscan]
    | .version v :: c2 :: X, htl, happ, hscan =>
      have hm := extractInfo_marker w B _ hB' htl hscan
      by_cases hc : ∃ type, c2 = streamTypeComponent type
      · obtain ⟨type, rfl⟩ := hc
        refine .inr ⟨v, type, B, X, (streamPrefix_append v type B X).symm, hB',
          fun hlen => (app_not_mem_dropLast_marker v type X).mp (happ (scanStart_of_lt _ hlen)),
          fun info => ?_⟩
        rw [hm]
        cases type with
        | audio => exact if_pos rfl
        | video => exact (if_neg (by decide)).trans (if_pos rfl)
      · push_neg at hc
        exact .inl fun info => by rw [hm]; dsimp only; rw [if_neg (hc .audio), if_neg (hc .video)]
    | .generic _ :: _, htl, _, hscan | .segment _ :: _, htl, _, hscan
    | .sequenceNumber _ :: _, htl, _, hscan | .other _ _ :: _, htl, _, hscan =>
      exact .inl fun info => by rw [extractInfo_marker w B _ hB' htl hscan]


/-- **Rejection at the marker**: below `2^31 + 2` components, when the last marker
before the final component is not followed by `<version>/(audio|video)`,
`extractInfo` returns `false`. -/
theorem extractInfo_fst_of_marker (P Y : Name) (hP : P ≠ []) (hY : Y ≠ [])
    (happ : appComponent ∉ Y.dropLast)
    (hnot : ∀ v type Z, Y ≠ .version v :: streamTypeComponent type :: Z)
    (hlen : (P ++ appComponent :: Y).length < 2147483650) (info : NamespaceInfo) :
    (extractInfo w (P ++ appComponent :: Y) info).1 = .ok false := by
  have hm := extractInfo_marker w P Y hP hY (scanApp_app P Y hP hY happ hlen) info
  match Y, hY, happ, hnot, hlen, hm with
  | [], hY, _, _, _, _ => exact absurd rfl hY
  | [.version v], _, _, _, _, hm => rw [hm]
  | .version v :: c2 :: Z, _, _, hnot, _, hm =>
    rw [hm]
    dsimp only
    rw [if_neg fun h => hnot v .audio Z (by rw [h]), if_neg fun h => hnot v .video Z (by rw [h])]
  | .generic _ :: _, _, _, _, _, hm | .segment _ :: _, _, _, _, _, hm
  | .sequenceNumber _ :: _, _, _, _, _, hm | .other _ _ :: _, _, _, _, _, hm => rw [hm]

/-- **No marker past index `0`, no stream**: when no component between the first
and the last is the marker, `extractInfo` returns `false`. -/
theorem extractInfo_fst_of_no_marker (name : Name)
    (h : ∀ k, 0 < k → k + 1 < name.length → name[k]? ≠ some appComponent) (info : NamespaceInfo) :
    (extractInfo w name info).1 = .ok false := by
  rcases extractInfo_cases w name with hf | ⟨v, type, B, X, rfl, hB, -, -⟩
  · exact hf info
  · refine absurd ?_ (h B.length (List.length_pos.mpr hB) (by simp [streamPrefix_append]))
    rw [streamPrefix_append, List.getElem?_append_right le_rfl, Nat.sub_self, List.getElem?_cons_zero]

end

end NdnRtc
