/-
The **round trip** between the two halves of `name-components.cpp`: which names
`extractInfo` accepts, and what it writes when it does.

`extractInfo_fst_eq_true_iff` is the whole answer below `2^31 + 2` components: a
name is accepted exactly when it is a grammar name (built with the code's own
`streamPrefix`) followed by anything at all, with a non-empty base prefix, and with
no `ndnrtc` component after the marker before the last component. The last two
conditions come from the marker scan, which starts at `name.size()-2`, stops at
`i > 0`, and stops at the *last* `ndnrtc` it sees. What is written is
`grammarInfo`: the fields the grammar name states, each number narrowed to its
field, and nothing else (`extractInfo_overwrites`, which needs no bound).

Three things the grammar of the spec leaves open are decided here by the code. The
stream helpers never check what follows the segment number, but the marker scan
reads it: trailing components are accepted unless one before the last is
`ndnrtc`. A stream or thread called `ndnrtc`, and an empty base prefix, make a
grammar name fail (`extractInfo_of_grammarName`). And the audio branch never writes
`isParity`, so what an audio name leaves there is what the caller put there.

The scan start is an `int`, so from `2^31 + 2` components on it no longer starts
at `name.size()-2` (`scanStart`); the theorems that depend on where it starts carry
the bound, the others hold for every name.
-/
import NdnRtc.ExtractInfoSpec

set_option autoImplicit false

namespace NdnRtc

open NameComponents

/-! ## Grammar names around the marker -/

theorem grammarName_append (v : Nat) (type : MediaStreamType) (B : Name) (s : Component)
    (sfx : StreamSuffix) (rest : Name) :
    grammarName v type B s sfx ++ rest = streamPrefix v type B ++ (s :: sfx.toName ++ rest) := by
  simp [grammarName]

theorem toName_ne_nil (sfx : StreamSuffix) : sfx.toName ≠ [] := by
  cases sfx <;> simp [StreamSuffix.toName]

/-- The second component of a suffix is never a stream type, so a suffix never
reads as `<version>/(audio|video)`. -/
theorem toName_ne_streamHead (sfx : StreamSuffix) (v : Nat) (type : MediaStreamType) (Z : Name) :
    sfx.toName ≠ .version v :: streamTypeComponent type :: Z := by
  cases sfx with
  | video t d n p m => cases d <;> cases type <;> simp [StreamSuffix.toName]
  | _ => cases type <;> simp [StreamSuffix.toName]

/-- In a suffix, only the thread can be the marker. -/
theorem app_not_mem_dropLast_toName (sfx : StreamSuffix) (ht : sfx.thread ≠ some appComponent) :
    appComponent ∉ sfx.toName.dropLast := by
  rw [appComponent_eq] at ht
  cases sfx with
  | video t d n p m => cases d <;> cases p <;> simp_all [StreamSuffix.toName, StreamSuffix.thread, eq_comm]
  | _ => simp_all [StreamSuffix.toName, StreamSuffix.thread, eq_comm]

/-- In a grammar name without trailing components, the marker can only hide in
the stream or the thread name. -/
theorem app_not_mem_dropLast_stream (s : Component) (sfx : StreamSuffix)
    (hs : s ≠ appComponent) (ht : sfx.thread ≠ some appComponent) :
    appComponent ∉ (s :: sfx.toName).dropLast := by
  rw [List.dropLast_cons_of_ne_nil (toName_ne_nil sfx), List.mem_cons, not_or]
  exact ⟨Ne.symm hs, app_not_mem_dropLast_toName sfx ht⟩

/-- What follows the thread of a suffix: something, never the marker but in the
last place, and never `<version>/(audio|video)`. -/
theorem toName_of_thread (sfx : StreamSuffix) (t : Component) (ht : sfx.thread = some t) :
    ∃ Y, sfx.toName = t :: Y ∧ Y ≠ [] ∧ appComponent ∉ Y.dropLast ∧
      ∀ v type Z, Y ≠ .version v :: streamTypeComponent type :: Z := by
  cases sfx with
  | streamMeta mv m => cases ht
  | threadMeta t' mv m => cases ht; exact ⟨_, rfl, by simp, by simp, by simp⟩
  | video t' d n p m =>
    cases ht; cases d <;> cases p <;> exact ⟨_, rfl, by simp, by simp, by simp⟩
  | audio t' n m => cases ht; exact ⟨_, rfl, by simp, by simp, by simp⟩

/-! ## Inputs to run the parser on -/

/-- Field widths to run the parser with. -/
def exampleWidths : FieldWidths := ⟨32, 32, 32, 32⟩

/-- An out-parameter as a caller passes it, every field cleared. -/
def exampleInfo : NamespaceInfo :=
  { basePrefix := [], apiVersion := 0, streamType := .video, streamName := "", threadName := "",
    isMeta := false, isDelta := false, isParity := false, metaVersion := 0, sampleNo := 0,
    segNo := 0 }

section
variable (w : FieldWidths)

/-! ## Acceptance -/

/-- **Forward direction**: below `2^31 + 2` components, a grammar name followed by
anything is accepted, and the out-parameter receives exactly what the grammar name
states. -/
theorem extractInfo_grammarName (v : Nat) (type : MediaStreamType) (B : Name) (s : Component)
    (sfx : StreamSuffix) (rest : Name) (hB : B ≠ []) (hfit : sfx.fitsType type)
    (hthread : sfx.thread ≠ some metaComponent)
    (happ : appComponent ∉ (s :: sfx.toName ++ rest).dropLast)
    (hlen : (grammarName v type B s sfx ++ rest).length < 2147483650) (info : NamespaceInfo) :
    extractInfo w (grammarName v type B s sfx ++ rest) info =
      (.ok true, grammarInfo B (toUnsigned w.apiVersion v) type s (sfx.narrow w) info) := by
  rw [grammarName_append] at hlen ⊢
  rw [extractInfo_streamPrefix w v type B _ hB happ hlen]
  cases type with
  | audio => exact extractAudioStreamInfo_toName w s sfx rest hfit hthread _
  | video => exact extractVideoStreamInfo_toName w s sfx rest hfit hthread _

/-- **Inversion**: an accepted name is a grammar name followed by anything, over a
non-empty base, and the call writes what that grammar name states, whatever the
out-parameter. Below `2^31 + 2` components no marker follows the stream prefix but
in the last place. -/
theorem extractInfo_accepted (name : Name) (info₀ : NamespaceInfo)
    (h : (extractInfo w name info₀).1 = .ok true) :
    ∃ (v : Nat) (type : MediaStreamType) (B : Name) (s : Component) (sfx : StreamSuffix)
      (rest : Name), name = grammarName v type B s sfx ++ rest ∧ B ≠ [] ∧ sfx.fitsType type ∧
        sfx.thread ≠ some metaComponent ∧
        (name.length < 2147483650 → appComponent ∉ (s :: sfx.toName ++ rest).dropLast) ∧
        ∀ info, extractInfo w name info =
          (.ok true, grammarInfo B (toUnsigned w.apiVersion v) type s (sfx.narrow w) info) := by
  rcases extractInfo_cases w name with hf | ⟨v, type, B, X, rfl, hB, happ, hcall⟩
  · rw [hf] at h; cases h
  rw [hcall] at h
  obtain ⟨s, sfx, rest, rfl, hfit, hth⟩ : ∃ (s : Component) (sfx : StreamSuffix) (rest : Name),
      X = s :: sfx.toName ++ rest ∧ sfx.fitsType type ∧ sfx.thread ≠ some metaComponent := by
    cases type with
    | audio => exact extractAudioStreamInfo_shape w _ _ h
    | video => exact extractVideoStreamInfo_shape w _ _ h
  refine ⟨v, type, B, s, sfx, rest, (grammarName_append v type B s sfx rest).symm, hB, hfit, hth,
    happ, fun info => ?_⟩
  rw [hcall]
  cases type with
  | audio => exact extractAudioStreamInfo_toName w s sfx rest hfit hth _
  | video => exact extractVideoStreamInfo_toName w s sfx rest hfit hth _

/-- **Acceptance**: below `2^31 + 2` components, the names `extractInfo` accepts,
exactly. -/
theorem extractInfo_fst_eq_true_iff (name : Name) (hlen : name.length < 2147483650)
    (info : NamespaceInfo) :
    (extractInfo w name info).1 = .ok true ↔
      ∃ (v : Nat) (type : MediaStreamType) (B : Name) (s : Component) (sfx : StreamSuffix)
        (rest : Name), name = grammarName v type B s sfx ++ rest ∧ B ≠ [] ∧ sfx.fitsType type ∧
          sfx.thread ≠ some metaComponent ∧ appComponent ∉ (s :: sfx.toName ++ rest).dropLast := by
  constructor
  · intro h
    obtain ⟨v, type, B, s, sfx, rest, rfl, hB, hfit, hth, happ, -⟩ := extractInfo_accepted w name info h
    exact ⟨v, type, B, s, sfx, rest, rfl, hB, hfit, hth, happ hlen⟩
  · rintro ⟨v, type, B, s, sfx, rest, rfl, hB, hfit, hth, happ⟩
    rw [extractInfo_grammarName w v type B s sfx rest hB hfit hth happ hlen]

/-- The key frame `/alice/ndnrtc/v=1/video/camera/hi/k/seq=7/seg=0` is short enough,
and is accepted as a grammar name. -/
theorem extractInfo_fst_eq_true_iff_key :
    (grammarName 1 .video [.generic "alice"] (.generic "camera")
        (.video (.generic "hi") false 7 false 0)).length < 2147483650 ∧
      ((extractInfo exampleWidths
          (grammarName 1 .video [.generic "alice"] (.generic "camera")
            (.video (.generic "hi") false 7 false 0)) exampleInfo).1 = .ok true ↔
        ∃ (v : Nat) (type : MediaStreamType) (B : Name) (s : Component) (sfx : StreamSuffix)
          (rest : Name), grammarName 1 .video [.generic "alice"] (.generic "camera")
              (.video (.generic "hi") false 7 false 0) = grammarName v type B s sfx ++ rest ∧
            B ≠ [] ∧ sfx.fitsType type ∧ sfx.thread ≠ some metaComponent ∧
            appComponent ∉ (s :: sfx.toName ++ rest).dropLast) :=
  ⟨by decide, extractInfo_fst_eq_true_iff exampleWidths _ (by decide) exampleInfo⟩

/-- **Round trip** for names without trailing components, below `2^31 + 2`
components: a grammar name over a non-empty base prefix, with neither the stream nor
the thread called `ndnrtc`, parses back to what it was built from; every other
grammar name is rejected. -/
theorem extractInfo_of_grammarName (v : Nat) (type : MediaStreamType) (B : Name)
    (s : Component) (sfx : StreamSuffix) (hfit : sfx.fitsType type)
    (hthread : sfx.thread ≠ some metaComponent)
    (hlen : (grammarName v type B s sfx).length < 2147483650) (info : NamespaceInfo) :
    (B ≠ [] ∧ s ≠ appComponent ∧ sfx.thread ≠ some appComponent →
      extractInfo w (grammarName v type B s sfx) info =
        (.ok true, grammarInfo B (toUnsigned w.apiVersion v) type s (sfx.narrow w) info)) ∧
    (¬(B ≠ [] ∧ s ≠ appComponent ∧ sfx.thread ≠ some appComponent) →
      (extractInfo w (grammarName v type B s sfx) info).1 = .ok false) := by
  refine ⟨fun ⟨hB, hs, ht⟩ => ?_, fun hrej => ?_⟩
  · simpa using extractInfo_grammarName w v type B s sfx [] hB hfit hthread
      (by simpa using app_not_mem_dropLast_stream s sfx hs ht) (by simpa using hlen) info
  by_cases ht : sfx.thread = some appComponent
  · -- the thread is taken for the marker
    obtain ⟨Y, hY, hYne, hYapp, hYnot⟩ := toName_of_thread sfx appComponent ht
    have hname : grammarName v type B s sfx = (streamPrefix v type B ++ [s]) ++ appComponent :: Y := by
      simp [grammarName, hY]
    rw [hname] at hlen ⊢
    exact extractInfo_fst_of_marker w _ Y (by simp) hYne hYapp hYnot hlen info
  by_cases hs : s = appComponent
  · -- the stream is taken for the marker
    subst hs
    exact extractInfo_fst_of_marker w (streamPrefix v type B) sfx.toName (by simp [streamPrefix])
      (toName_ne_nil sfx) (app_not_mem_dropLast_toName sfx ht) (toName_ne_streamHead sfx) hlen info
  · -- the only marker is at index 0, which the scan never reaches
    obtain rfl : B = [] := by tauto
    have happ := (app_not_mem_dropLast_marker v type _).mpr (app_not_mem_dropLast_stream s sfx hs ht)
    refine extractInfo_fst_of_no_marker w _ (fun k hk hk' => ?_) info
    rw [grammarName, streamPrefix_append, List.nil_append] at hk' ⊢
    cases k with
    | zero => cases hk
    | succ k =>
      rw [List.getElem?_cons_succ]
      exact getElem?_ne_app _ happ k (by simpa using hk')

/-- The key frame `/alice/ndnrtc/v=1/video/camera/hi/k/seq=7/seg=0` parses back. -/
theorem extractInfo_of_grammarName_key :
    (StreamSuffix.video (.generic "hi") false 7 false 0).fitsType .video ∧
      (StreamSuffix.video (.generic "hi") false 7 false 0).thread ≠ some metaComponent ∧
      (grammarName 1 .video [.generic "alice"] (.generic "camera")
        (.video (.generic "hi") false 7 false 0)).length < 2147483650 ∧
      ([Component.generic "alice"] ≠ [] ∧ Component.generic "camera" ≠ appComponent ∧
          (StreamSuffix.video (.generic "hi") false 7 false 0).thread ≠ some appComponent →
        extractInfo exampleWidths
            (grammarName 1 .video [.generic "alice"] (.generic "camera")
              (.video (.generic "hi") false 7 false 0)) exampleInfo =
          (.ok true, grammarInfo [.generic "alice"] (toUnsigned exampleWidths.apiVersion 1) .video
            (.generic "camera") ((StreamSuffix.video (.generic "hi") false 7 false 0).narrow exampleWidths)
            exampleInfo)) ∧
      (¬([Component.generic "alice"] ≠ [] ∧ Component.generic "camera" ≠ appComponent ∧
          (StreamSuffix.video (.generic "hi") false 7 false 0).thread ≠ some appComponent) →
        (extractInfo exampleWidths
            (grammarName 1 .video [.generic "alice"] (.generic "camera")
              (.video (.generic "hi") false 7 false 0)) exampleInfo).1 = .ok false) :=
  ⟨rfl, by decide, by decide,
    extractInfo_of_grammarName exampleWidths 1 .video [.generic "alice"] (.generic "camera")
      (.video (.generic "hi") false 7 false 0) rfl (by decide) (by decide) exampleInfo⟩

/-- Two grammar names that do not parse back: over the empty base prefix the marker
sits at index 0, where the scan never looks, and a stream called `ndnrtc` is taken
for the marker. -/
theorem extractInfo_rejects_boundary_names :
    (extractInfo exampleWidths
      (grammarName 1 .video [] (.generic "camera") (.video (.generic "hi") false 7 false 0))
      exampleInfo).1 = .ok false ∧
    (extractInfo exampleWidths
      (grammarName 1 .video [.generic "alice"] (.generic "ndnrtc")
        (.video (.generic "hi") false 7 false 0)) exampleInfo).1 = .ok false := by
  decide

/-- **Soundness**: an accepted name is a grammar name followed by anything, and the
out-parameter holds what that grammar name states. -/
theorem extractInfo_sound (name : Name) (info : NamespaceInfo)
    (h : (extractInfo w name info).1 = .ok true) :
    ∃ (v : Nat) (type : MediaStreamType) (B : Name) (s : Component) (sfx : StreamSuffix)
      (rest : Name), name = grammarName v type B s sfx ++ rest ∧ B ≠ [] ∧ sfx.fitsType type ∧
        sfx.thread ≠ some metaComponent ∧
        (name.length < 2147483650 → appComponent ∉ (s :: sfx.toName ++ rest).dropLast) ∧
        (extractInfo w name info).2 = grammarInfo B (toUnsigned w.apiVersion v) type s (sfx.narrow w) info := by
  obtain ⟨v, type, B, s, sfx, rest, hname, hB, hfit, hth, happ, hcall⟩ :=
    extractInfo_accepted w name info h
  exact ⟨v, type, B, s, sfx, rest, hname, hB, hfit, hth, happ, by rw [hcall]⟩

/-- The key frame, as `extractInfo_sound` takes it apart. -/
theorem extractInfo_sound_key :
    (extractInfo exampleWidths
        (grammarName 1 .video [.generic "alice"] (.generic "camera")
          (.video (.generic "hi") false 7 false 0)) exampleInfo).1 = .ok true ∧
      ∃ (v : Nat) (type : MediaStreamType) (B : Name) (s : Component) (sfx : StreamSuffix)
        (rest : Name), grammarName 1 .video [.generic "alice"] (.generic "camera")
            (.video (.generic "hi") false 7 false 0) = grammarName v type B s sfx ++ rest ∧
          B ≠ [] ∧ sfx.fitsType type ∧ sfx.thread ≠ some metaComponent ∧
          ((grammarName 1 .video [.generic "alice"] (.generic "camera")
              (.video (.generic "hi") false 7 false 0)).length < 2147483650 →
            appComponent ∉ (s :: sfx.toName ++ rest).dropLast) ∧
          (extractInfo exampleWidths
              (grammarName 1 .video [.generic "alice"] (.generic "camera")
                (.video (.generic "hi") false 7 false 0)) exampleInfo).2 =
            grammarInfo B (toUnsigned exampleWidths.apiVersion v) type s (sfx.narrow exampleWidths)
              exampleInfo :=
  ⟨by decide, extractInfo_sound exampleWidths _ exampleInfo (by decide)⟩

/-- A component after the segment number is not checked: the key frame with one
more component is accepted. -/
theorem extractInfo_accepts_trailing :
    (extractInfo exampleWidths
      (grammarName 1 .video [.generic "alice"] (.generic "camera")
        (.video (.generic "hi") false 7 false 0) ++ [.generic "extra"]) exampleInfo).1 = .ok true := by
  decide

/-- **The result depends only on the name**: once a name is accepted from one
out-parameter, it is accepted from every one, and the call overwrites the same
fields with the same values. -/
theorem extractInfo_overwrites (name : Name) (info₀ : NamespaceInfo)
    (h : (extractInfo w name info₀).1 = .ok true) :
    ∃ (B : Name) (apiVersion : Nat) (type : MediaStreamType) (s : Component) (sfx : StreamSuffix),
      ∀ info, extractInfo w name info = (.ok true, grammarInfo B apiVersion type s sfx info) := by
  obtain ⟨v, type, B, s, sfx, rest, -, -, -, -, -, hcall⟩ := extractInfo_accepted w name info₀ h
  exact ⟨B, _, type, s, _, hcall⟩

/-- The key frame parses to the same fields from any out-parameter. -/
theorem extractInfo_overwrites_key :
    (extractInfo exampleWidths
        (grammarName 1 .video [.generic "alice"] (.generic "camera")
          (.video (.generic "hi") false 7 false 0)) exampleInfo).1 = .ok true ∧
      ∃ (B : Name) (apiVersion : Nat) (type : MediaStreamType) (s : Component) (sfx : StreamSuffix),
        ∀ info, extractInfo exampleWidths
            (grammarName 1 .video [.generic "alice"] (.generic "camera")
              (.video (.generic "hi") false 7 false 0)) info =
          (.ok true, grammarInfo B apiVersion type s sfx info) :=
  ⟨by decide, extractInfo_overwrites exampleWidths _ exampleInfo (by decide)⟩

/-- The audio branch never writes `isParity`: one audio sample name, parsed into
two out-parameters that differ only there, leaves them different there. -/
theorem extractInfo_audio_keeps_isParity :
    (extractInfo exampleWidths
        (grammarName 1 .audio [.generic "alice"] (.generic "mic") (.audio (.generic "t") 7 0))
        exampleInfo).1 = .ok true ∧
      (extractInfo exampleWidths
        (grammarName 1 .audio [.generic "alice"] (.generic "mic") (.audio (.generic "t") 7 0))
        { exampleInfo with isParity := true }).1 = .ok true ∧
      (extractInfo exampleWidths
        (grammarName 1 .audio [.generic "alice"] (.generic "mic") (.audio (.generic "t") 7 0))
        exampleInfo).2.isParity = false ∧
      (extractInfo exampleWidths
        (grammarName 1 .audio [.generic "alice"] (.generic "mic") (.audio (.generic "t") 7 0))
        { exampleInfo with isParity := true }).2.isParity = true := by
  decide

end

end NdnRtc
