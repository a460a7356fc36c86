/-
How `extractInfo` can end other than by returning, and what its outcome
depends on.

Every conversion on the sample paths runs inside a `try`, and every read
`name[i]` is behind a size check or the marker scan, so no read runs past the
end. One conversion is left outside both: `extractMeta`'s
`info.segNo_ = name[1].toSegment()`. `extractInfo_fst_eq_error_iff` says that
this is the only way out: the call throws `std::runtime_error` exactly on a
stream or thread meta name whose component after `<version>` is not a segment,
and never reads past the end of a name.

The returned value and the fault do not depend on the out-parameter the caller
passes (`extractInfo_fst_indep`): the three outcomes are each decided by the form
of the name alone.
-/
import NdnRtc.NameRoundTrip

set_option autoImplicit false

namespace NdnRtc

open NameComponents

section
variable (w : FieldWidths)

/-! ## The parts -/

/-- `extractMeta` throws only from `toSegment`, on a non-segment after the
version. -/
theorem extractMeta_fst_eq_error (name : Name) (info : NamespaceInfo) (e : Fault)
    (h : (extractMeta w name info).1 = .error e) :
    e = .runtimeError ∧ ∃ (mv : Nat) (c : Component) (rest : Name),
      name = .version mv :: c :: rest ∧ ∀ m, c ≠ .segment m := by
  rw [extractMeta_eq] at h
  match name with
  | [] | [_] => simp at h
  | c0 :: c1 :: rest =>
    cases c0 <;> try cases h
    dsimp only at h
    rw [setSegNo_eq] at h
    cases c1 <;> cases h <;> exact ⟨rfl, _, _, rest, rfl, by simp⟩

/-- On at least four components the video sample grammar never throws. -/
theorem videoSample_fst_ne_error (c0 c1 c2 c3 : Component) (rest : Name) (info : NamespaceInfo)
    (e : Fault) : (videoSample w (c0 :: c1 :: c2 :: c3 :: rest) info).1 ≠ .error e := by
  rcases videoSample_fst w c0 c1 c2 c3 rest info with h | ⟨d, n, p, m, rest', hn⟩
  · rw [h]; exact fun h' => by cases h'
  · rw [hn, ← List.cons_append, videoSample_video]; exact fun h' => by cases h'

/-- On at least four components the audio sample grammar never throws. -/
theorem audioSample_fst_ne_error (c0 c1 c2 c3 : Component) (rest : Name) (info : NamespaceInfo)
    (e : Fault) : (audioSample w (c0 :: c1 :: c2 :: c3 :: rest) info).1 ≠ .error e := by
  rcases audioSample_fst w c0 c1 c2 c3 rest info with h | ⟨n, m, hn⟩
  · rw [h]; exact fun h' => by cases h'
  · rw [hn, ← List.cons_append, audioSample_audio]; exact fun h' => by cases h'

/-- With a sample grammar that never throws, the shared stream half throws only
from a meta branch. -/
theorem extractStreamInfo_fst_eq_error (sample : Name → Parse Bool)
    (hsample : ∀ c0 c1 c2 c3 rest info e, (sample (c0 :: c1 :: c2 :: c3 :: rest) info).1 ≠ .error e)
    (name : Name) (info : NamespaceInfo) (e : Fault)
    (h : (extractStreamInfo w sample name info).1 = .error e) :
    e = .runtimeError ∧ ∃ (s : Component) (thread : Option Component) (mv : Nat) (c : Component)
      (rest : Name), name = s :: metaHead thread mv ++ c :: rest ∧ thread ≠ some metaComponent ∧
        ∀ m, c ≠ .segment m := by
  match name with
  | [] | [_] | [_, _] | [_, _, _] => rw [extractStreamInfo_short w _ _ _ (by simp)] at h; cases h
  | c0 :: c1 :: c2 :: c3 :: rest =>
    rcases extractStreamInfo_fst_cases w sample c0 c1 c2 c3 rest info with
      ⟨rfl, i, hr⟩ | ⟨h1, rfl, -, i, hr⟩ | ⟨-, i, hr⟩
    · obtain ⟨rfl, mv, c, rest', hn, hc⟩ := extractMeta_fst_eq_error w _ i e (hr.symm.trans h)
      simp only [List.cons.injEq] at hn
      obtain ⟨rfl, rfl, rfl⟩ := hn
      exact ⟨rfl, c0, none, mv, c3, rest, rfl, by simp, hc⟩
    · obtain ⟨rfl, mv, c, rest', hn, hc⟩ := extractMeta_fst_eq_error w _ i e (hr.symm.trans h)
      simp only [List.cons.injEq] at hn
      obtain ⟨rfl, rfl⟩ := hn
      exact ⟨rfl, c0, some c1, mv, c, rest', rfl, by simpa using h1, hc⟩
    · exact absurd (hr.symm.trans h) (hsample _ _ _ _ _ _ _)

/-- A meta name with a non-segment after the version makes the shared half
throw, whatever the sample grammar. -/
theorem extractStreamInfo_metaHead (sample : Name → Parse Bool) (s : Component)
    (thread : Option Component) (mv : Nat) (c : Component) (rest : Name)
    (ht : thread ≠ some metaComponent) (hc : ∀ m, c ≠ .segment m) (info : NamespaceInfo) :
    (extractStreamInfo w sample (s :: metaHead thread mv ++ c :: rest) info).1 = .error .runtimeError := by
  cases thread with
  | none =>
    rw [metaHead, List.cons_append, List.cons_append, List.cons_append, List.nil_append,
      extractStreamInfo_cons, if_pos rfl, extractMeta_version, setSegNo_of_ne w c hc]
  | some t =>
    have ht' : t ≠ metaComponent := fun h => ht (congrArg some h)
    rw [metaHead, List.cons_append, List.cons_append, List.cons_append, List.cons_append,
      List.nil_append, extractStreamInfo_cons, if_neg ht']
    dsimp only
    rw [if_pos rfl, extractMeta_version, setSegNo_of_ne w c hc]

/-! ## The whole parser -/

/-- `extractInfo` throws only on a meta name with a non-segment after the version,
and then throws `std::runtime_error`, whatever the out-parameter. Below `2^31 + 2`
components no marker follows the stream prefix but in the last place. -/
theorem extractInfo_fst_eq_error (name : Name) (info : NamespaceInfo) (e : Fault)
    (h : (extractInfo w name info).1 = .error e) :
    e = .runtimeError ∧ (∀ info', (extractInfo w name info').1 = .error .runtimeError) ∧
      ∃ (v : Nat) (type : MediaStreamType) (B : Name) (s : Component)
        (thread : Option Component) (mv : Nat) (c : Component) (rest : Name),
        name = streamPrefix v type B ++ (s :: metaHead thread mv ++ c :: rest) ∧ B ≠ [] ∧
        thread ≠ some metaComponent ∧ (∀ m, c ≠ .segment m) ∧
        (name.length < 2147483650 →
          appComponent ∉ (s :: metaHead thread mv ++ c :: rest).dropLast) := by
  rcases extractInfo_cases w name with hf | ⟨v, type, B, X, rfl, hB, happ, hcall⟩
  · rw [hf] at h; cases h
  rw [hcall] at h
  obtain ⟨rfl, s, thread, mv, c, rest, rfl, ht, hc⟩ : e = .runtimeError ∧
      ∃ (s : Component) (thread : Option Component) (mv : Nat) (c : Component) (rest : Name),
        X = s :: metaHead thread mv ++ c :: rest ∧ thread ≠ some metaComponent ∧
          ∀ m, c ≠ .segment m := by
    cases type with
    | audio => exact extractStreamInfo_fst_eq_error w _ (audioSample_fst_ne_error w) _ _ _ h
    | video => exact extractStreamInfo_fst_eq_error w _ (videoSample_fst_ne_error w) _ _ _ h
  refine ⟨rfl, fun info' => ?_, v, type, B, s, thread, mv, c, rest, rfl, hB, ht, hc, happ⟩
  rw [hcall]
  cases type with
  | audio => exact extractStreamInfo_metaHead w _ s thread mv c rest ht hc _
  | video => exact extractStreamInfo_metaHead w _ s thread mv c rest ht hc _

/-- Below `2^31 + 2` components, every such meta name makes `extractInfo` throw. -/
theorem extractInfo_metaHead (v : Nat) (type : MediaStreamType) (B : Name) (s : Component)
    (thread : Option Component) (mv : Nat) (c : Component) (rest : Name) (hB : B ≠ [])
    (ht : thread ≠ some metaComponent) (hc : ∀ m, c ≠ .segment m)
    (happ : appComponent ∉ (s :: metaHead thread mv ++ c :: rest).dropLast)
    (hlen : (streamPrefix v type B ++ (s :: metaHead thread mv ++ c :: rest)).length < 2147483650)
    (info : NamespaceInfo) :
    (extractInfo w (streamPrefix v type B ++ (s :: metaHead thread mv ++ c :: rest)) info).1 =
      .error .runtimeError := by
  rw [extractInfo_streamPrefix w v type B _ hB happ hlen]
  cases type with
  | audio => exact extractStreamInfo_metaHead w _ s thread mv c rest ht hc _
  | video => exact extractStreamInfo_metaHead w _ s thread mv c rest ht hc _

/-- **Faults**: below `2^31 + 2` components, the names on which `extractInfo` does
not return, exactly. -/
theorem extractInfo_fst_eq_error_iff (name : Name) (hlen : name.length < 2147483650)
    (info : NamespaceInfo) (e : Fault) :
    (extractInfo w name info).1 = .error e ↔ e = .runtimeError ∧
      ∃ (v : Nat) (type : MediaStreamType) (B : Name) (s : Component) (thread : Option Component)
        (mv : Nat) (c : Component) (rest : Name),
        name = streamPrefix v type B ++ (s :: metaHead thread mv ++ c :: rest) ∧ B ≠ [] ∧
        thread ≠ some metaComponent ∧ (∀ m, c ≠ .segment m) ∧
        appComponent ∉ (s :: metaHead thread mv ++ c :: rest).dropLast := by
  constructor
  · intro h
    obtain ⟨rfl, -, v, type, B, s, thread, mv, c, rest, rfl, hB, ht, hc, happ⟩ :=
      extractInfo_fst_eq_error w name info e h
    exact ⟨rfl, v, type, B, s, thread, mv, c, rest, rfl, hB, ht, hc, happ hlen⟩
  · rintro ⟨rfl, v, type, B, s, thread, mv, c, rest, rfl, hB, ht, hc, happ⟩
    exact extractInfo_metaHead w v type B s thread mv c rest hB ht hc happ hlen info

/-- The stream meta name `/alice/ndnrtc/v=1/video/camera/_meta/v=1/x`, whose last
component is not a segment, is short enough, and is one of them. -/
theorem extractInfo_fst_eq_error_iff_meta :
    (streamPrefix 1 .video [.generic "alice"] ++
        [.generic "camera", metaComponent, .version 1, .generic "x"]).length < 2147483650 ∧
      ((extractInfo exampleWidths
          (streamPrefix 1 .video [.generic "alice"] ++
            [.generic "camera", metaComponent, .version 1, .generic "x"]) exampleInfo).1 =
          .error .runtimeError ↔ Fault.runtimeError = .runtimeError ∧
        ∃ (v : Nat) (type : MediaStreamType) (B : Name) (s : Component) (thread : Option Component)
          (mv : Nat) (c : Component) (rest : Name),
          streamPrefix 1 .video [.generic "alice"] ++
              [.generic "camera", metaComponent, .version 1, .generic "x"] =
            streamPrefix v type B ++ (s :: metaHead thread mv ++ c :: rest) ∧ B ≠ [] ∧
          thread ≠ some metaComponent ∧ (∀ m, c ≠ .segment m) ∧
          appComponent ∉ (s :: metaHead thread mv ++ c :: rest).dropLast) :=
  ⟨by decide, extractInfo_fst_eq_error_iff exampleWidths _ (by decide) exampleInfo _⟩

/-- A stream meta name whose last component is not a segment,
`/alice/ndnrtc/v=1/video/camera/_meta/v=1/x`, makes `extractInfo` throw. -/
theorem extractInfo_throws_on_meta_without_segment :
    (extractInfo exampleWidths
      (streamPrefix 1 .video [.generic "alice"] ++
        [.generic "camera", metaComponent, .version 1, .generic "x"]) exampleInfo).1 =
      .error .runtimeError := by
  decide

/-- **No read past the end**: whatever the name, every `name[i]` the parser
makes is below the size of the name it reads. -/
theorem extractInfo_ne_outOfRange (name : Name) (info : NamespaceInfo) :
    (extractInfo w name info).1 ≠ .error .outOfRange :=
  fun h => nomatch (extractInfo_fst_eq_error w name info _ h).1

/-- **The outcome depends only on the name**: returning `true`, returning
`false` and throwing are each decided before anything is read from the
out-parameter. -/
theorem extractInfo_fst_indep (name : Name) (info₁ info₂ : NamespaceInfo) :
    (extractInfo w name info₁).1 = (extractInfo w name info₂).1 := by
  have transfer : ∀ i j r, (extractInfo w name i).1 = r → r ≠ .ok false →
      (extractInfo w name j).1 = r := by
    rintro i j (e | _ | _) h hr
    · obtain ⟨rfl, hall, -⟩ := extractInfo_fst_eq_error w name i e h
      exact hall j
    · exact absurd rfl hr
    · obtain ⟨v, type, B, s, sfx, rest, -, -, -, -, -, hall⟩ := extractInfo_accepted w name i h
      rw [hall]
  rcases eq_or_ne (extractInfo w name info₁).1 (.ok false) with h₁ | h₁
  · rcases eq_or_ne (extractInfo w name info₂).1 (.ok false) with h₂ | h₂
    · rw [h₁, h₂]
    · exact transfer info₂ info₁ _ rfl h₂
  · exact (transfer info₁ info₂ _ rfl h₁).symm

end

end NdnRtc
