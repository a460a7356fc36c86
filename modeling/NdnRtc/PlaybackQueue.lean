/-
`PlaybackQueue` (`frame-buffer.hpp:520-576`): the ordered container that holds
assembled slots until playback, and what a run of ingestions leaves in it.

`queue_` is a `std::set<Sample>`, and a `std::set` keeps one element per
equivalence class of its order: inserting an element equivalent to one already
there (neither is `<` the other) changes nothing. `Sample::operator<` compares
`timestamp()` only, so two slots with one timestamp are equivalent and the
second one ingested is dropped. `mem_ingestAll` says what every run from the
constructed queue keeps: for each timestamp, the first slot ingested with it.
The spec orders the queue by timestamp and then sample number;
`ingestAll_eq_specQueue` says the code's queue is that queue on every run whose
timestamps are distinct, and `length_ingestAll_eq_iff` that it loses slots on
every other run. Slots become ready in any order, and the queue is what puts them
back in order: the queue depends only on the first slot ingested with each
timestamp, so with distinct timestamps every arrival order gives the same queue
(`ingestAll_perm`).

The bodies of `PlaybackQueue::onNewData` and `Sample::timestamp()` are in
`frame-buffer.cpp`, which is not among the sources: ingestion is modelled from
§4.G of the spec, `ingest(slot)` into the set keyed by
`ts = slot.frameMeta.timestamp`.
-/
import Mathlib.Data.List.Sort
import Mathlib.Data.List.Dedup
import Mathlib.Data.Prod.Lex

set_option autoImplicit false

namespace NdnRtc

/-! ## `std::set` over a keyed order -/

section
variable {α κ : Type} [LinearOrder κ] (key : α → κ)

/-- `std::set<T, Compare>::insert` on the elements in iteration order, where
`Compare` orders by `key`: the walk stops at the first element not below `x`,
and an element with the key of `x` keeps `x` out. -/
def insertSorted (x : α) : List α → List α
  | [] => [x]
  | y :: ys =>
    if key x < key y then x :: y :: ys
    else if key y < key x then y :: insertSorted x ys
    else y :: ys

/-- A `std::set<T, Compare>` whose `Compare` orders by `key`: its elements in
iteration order, which are strictly increasing in `key`. -/
structure StdSet where
  toList : List α
  sorted : toList.Sorted (fun a b => key a < key b)

variable {key}

theorem key_le_of_mem_sorted {y w : α} {ys : List α}
    (hl : (y :: ys).Sorted (fun a b => key a < key b)) (hw : w ∈ y :: ys) : key y ≤ key w := by
  rcases List.mem_cons.mp hw with rfl | hw
  · exact le_rfl
  · exact (List.rel_of_sorted_cons hl w hw).le

/-- Insertion adds no element but `x`. -/
theorem mem_insertSorted_of_mem {x z : α} {l : List α} (h : z ∈ insertSorted key x l) :
    z ∈ l ∨ z = x := by
  induction l with
  | nil => simpa [insertSorted] using h
  | cons y ys ih =>
    simp only [insertSorted] at h
    split_ifs at h
    · simpa [or_comm] using h
    · rcases List.mem_cons.mp h with rfl | h
      · exact .inl (List.mem_cons_self _ _)
      · exact (ih h).imp_left (List.mem_cons_of_mem y)
    · exact .inl h

/-- **Insertion into a set**: `x` goes in exactly when no element has its key. -/
theorem mem_insertSorted {x z : α} {l : List α} (hl : l.Sorted (fun a b => key a < key b)) :
    z ∈ insertSorted key x l ↔ z ∈ l ∨ (z = x ∧ ∀ y ∈ l, key y ≠ key x) := by
  induction l with
  | nil => simp [insertSorted]
  | cons y ys ih =>
    simp only [insertSorted]
    split_ifs with h1 h2
    · have hall : ∀ w ∈ y :: ys, key w ≠ key x := fun w hw =>
        (lt_of_lt_of_le h1 (key_le_of_mem_sorted hl hw)).ne'
      rw [List.mem_cons]
      constructor
      · rintro (rfl | h)
        exacts [.inr ⟨rfl, hall⟩, .inl h]
      · rintro (h | ⟨rfl, -⟩)
        exacts [.inr h, .inl rfl]
    · rw [List.mem_cons, ih (List.sorted_cons.mp hl).2, List.mem_cons, List.forall_mem_cons]
      simp only [h2.ne, ne_eq, not_false_eq_true, true_and, or_assoc]
    · have heq : key y = key x := le_antisymm (not_lt.mp h1) (not_lt.mp h2)
      simp [heq]

/-- Insertion keeps the elements strictly increasing. -/
theorem sorted_insertSorted (x : α) {l : List α} (hl : l.Sorted (fun a b => key a < key b)) :
    (insertSorted key x l).Sorted (fun a b => key a < key b) := by
  induction l with
  | nil => simp [insertSorted]
  | cons y ys ih =>
    simp only [insertSorted]
    split_ifs with h1 h2
    · exact List.sorted_cons.mpr ⟨fun w hw => lt_of_lt_of_le h1 (key_le_of_mem_sorted hl hw), hl⟩
    · refine List.sorted_cons.mpr ⟨fun w hw => ?_, ih (List.sorted_cons.mp hl).2⟩
      rcases mem_insertSorted_of_mem hw with hw | rfl
      exacts [List.rel_of_sorted_cons hl w hw, h2]
    · exact hl

/-- The keys present after an insertion: those before, and the key of `x`. -/
theorem exists_key_insertSorted {x : α} {l : List α} (hl : l.Sorted (fun a b => key a < key b))
    (k : κ) : (∃ y ∈ insertSorted key x l, key y = k) ↔ (∃ y ∈ l, key y = k) ∨ key x = k := by
  constructor
  · rintro ⟨y, hy, rfl⟩
    rcases (mem_insertSorted hl).mp hy with hy | ⟨rfl, -⟩
    exacts [.inl ⟨y, hy, rfl⟩, .inr rfl]
  · rintro (⟨y, hy, rfl⟩ | rfl)
    · exact ⟨y, (mem_insertSorted hl).mpr (.inl hy), rfl⟩
    by_cases h : ∃ y ∈ l, key y = key x
    · obtain ⟨y, hy, he⟩ := h
      exact ⟨y, (mem_insertSorted hl).mpr (.inl hy), he⟩
    · push_neg at h
      exact ⟨x, (mem_insertSorted hl).mpr (.inr ⟨rfl, h⟩), rfl⟩

variable (key)

/-- The empty set, as a default-constructed `std::set` starts. -/
def StdSet.empty : StdSet key := ⟨[], List.sorted_nil⟩

/-- `std::set::insert`. -/
def StdSet.insert (s : StdSet key) (x : α) : StdSet key :=
  ⟨insertSorted key x s.toList, sorted_insertSorted x s.sorted⟩

/-- Insertion of each element of `l` in turn. -/
def StdSet.insertAll (s : StdSet key) (l : List α) : StdSet key := l.foldl (StdSet.insert key) s

variable {key}

@[simp] theorem StdSet.insertAll_append_singleton (s : StdSet key) (l : List α) (x : α) :
    StdSet.insertAll key s (l ++ [x]) = StdSet.insert key (StdSet.insertAll key s l) x :=
  List.foldl_append _ _ _ _

variable (key)

/-- A run of insertions into the empty set keeps exactly the keys it inserted. -/
theorem exists_key_insertAll (l : List α) (k : κ) :
    (∃ y ∈ (StdSet.insertAll key (StdSet.empty key) l).toList, key y = k) ↔ ∃ x ∈ l, key x = k := by
  induction l using List.reverseRecOn with
  | nil => simp [StdSet.empty, StdSet.insertAll]
  | append_singleton l x ih =>
    rw [StdSet.insertAll_append_singleton]
    simp only [StdSet.insert, exists_key_insertSorted (StdSet.insertAll key (StdSet.empty key) l).sorted,
      ih, List.mem_append, List.mem_singleton, or_and_right, exists_or, exists_eq_left]

/-- **What a run of insertions keeps**: for each key, the first element
inserted with it, and nothing else. -/
theorem mem_insertAll (l : List α) (y : α) :
    y ∈ (StdSet.insertAll key (StdSet.empty key) l).toList ↔
      l.find? (fun x => key x = key y) = some y := by
  induction l using List.reverseRecOn with
  | nil => simp [StdSet.empty, StdSet.insertAll]
  | append_singleton l x ih =>
    have hkeys := exists_key_insertAll key l (key y)
    rw [StdSet.insertAll_append_singleton, StdSet.insert, mem_insertSorted (StdSet.insertAll _ _ l).sorted,
      ih, List.find?_append]
    cases hf : l.find? (fun x => key x = key y) with
    | some z =>
      obtain ⟨u, hu, huk⟩ := hkeys.mpr ⟨z, List.mem_of_find?_eq_some hf, by simpa using List.find?_some hf⟩
      simp only [Option.or_some, Option.some.injEq, or_iff_left_iff_imp, and_imp]
      rintro rfl hne
      exact absurd huk (hne u hu)
    | none =>
      have hnk : ∀ u ∈ (StdSet.insertAll key (StdSet.empty key) l).toList, key u ≠ key y := by
        intro u hu huk
        obtain ⟨z, hz, hzk⟩ := hkeys.mp ⟨u, hu, huk⟩
        exact absurd hzk (by simpa using List.find?_eq_none.mp hf z hz)
      simp only [reduceCtorEq, false_or, Option.none_or, List.find?_singleton]
      constructor
      · rintro ⟨rfl, -⟩
        simp
      · intro h
        split at h
        · cases h
          exact ⟨rfl, hnk⟩
        · cases h

/-- A run of insertions keeps one element per distinct key. -/
theorem length_insertAll (l : List α) :
    (StdSet.insertAll key (StdSet.empty key) l).toList.length = (l.map key).dedup.length := by
  have hsorted : ((StdSet.insertAll key (StdSet.empty key) l).toList.map key).Pairwise (· < ·) :=
    List.Pairwise.map _ (fun _ _ h => h) (StdSet.insertAll key (StdSet.empty key) l).sorted
  rw [← List.length_map _ key]
  refine ((List.perm_ext_iff_of_nodup hsorted.nodup (List.nodup_dedup _)).mpr fun k => ?_).length_eq
  simpa [List.mem_dedup] using exists_key_insertAll key l k

variable {key}

/-- Two sets over one order that hold the same elements list them in the same order. -/
theorem StdSet.toList_eq_of_mem_iff {s t : StdSet key} (h : ∀ y, y ∈ s.toList ↔ y ∈ t.toList) :
    s.toList = t.toList := by
  have : IsAntisymm α (fun a b => key a < key b) := ⟨fun _ _ h h' => absurd (h.trans h') (lt_irrefl _)⟩
  have hnodup : ∀ u : StdSet key, u.toList.Nodup := fun u =>
    (List.Pairwise.map key (fun _ _ h => h) u.sorted).nodup.of_map key
  exact List.eq_of_perm_of_sorted ((List.perm_ext_iff_of_nodup (hnodup s) (hnodup t)).mpr h)
    s.sorted t.sorted

/-- Where keys are distinct, the first element with the key of `y` is `y` itself
exactly when `y` is there at all. -/
theorem find?_key_eq_some_iff {l : List α} (hl : (l.map key).Nodup) {y : α} :
    l.find? (fun x => key x = key y) = some y ↔ y ∈ l := by
  refine ⟨List.mem_of_find?_eq_some, fun hy => ?_⟩
  have hsome : (l.find? (fun x => key x = key y)).isSome := List.find?_isSome.mpr ⟨y, hy, by simp⟩
  obtain ⟨z, hz⟩ := Option.isSome_iff_exists.mp hsome
  have hzk : key z = key y := by simpa using List.find?_some hz
  rw [hz, List.inj_on_of_nodup_map hl (List.mem_of_find?_eq_some hz) hy hzk]

end

/-! ## The queue -/

/-- The parts of a `BufferSlot` the queue reads: the sample number of its name
and the producer timestamp of its frame. -/
structure Slot where
  sampleNo : Nat
  frameTimestamp : Int
  deriving DecidableEq, Repr

/-- `PlaybackQueue::Sample`, a slot held for playback. -/
structure Sample where
  slot : Slot
  deriving DecidableEq, Repr

/-- Modelled from the spec: `Sample::timestamp()`, whose body is in
`frame-buffer.cpp`, not among the sources; §4.G keys the queue by
`ts = slot.frameMeta.timestamp`. -/
def Sample.timestamp (s : Sample) : Int := s.slot.frameTimestamp

/-- `PlaybackQueue`, with the one field its ingestion touches. -/
structure PlaybackQueue where
  /-- `queue_`, a `std::set<Sample>`; its order is `Sample::operator<`,
  `this->timestamp() < sample.timestamp()`. -/
  queue : StdSet Sample.timestamp

namespace PlaybackQueue

/-- The queue as constructed: `queue_` empty. -/
def empty : PlaybackQueue := ⟨StdSet.empty _⟩

/-- Modelled from the spec: `PlaybackQueue::onNewData`, whose body is in
`frame-buffer.cpp`, not among the sources; §4.G: `ingest(slot)` on
`onSlotReady`, that is `queue_.insert(Sample(slot))`. -/
def onNewData (q : PlaybackQueue) (slot : Slot) : PlaybackQueue :=
  ⟨q.queue.insert _ ⟨slot⟩⟩

/-- A run of ingestions with no `pop` in between. -/
def ingestAll (q : PlaybackQueue) (slots : List Slot) : PlaybackQueue :=
  slots.foldl onNewData q

/-- A run of ingestions is a run of `queue_.insert` calls. -/
theorem ingestAll_queue (q : PlaybackQueue) (slots : List Slot) :
    (q.ingestAll slots).queue = StdSet.insertAll _ q.queue (slots.map Sample.mk) := by
  induction slots generalizing q with
  | nil => rfl
  | cons slot slots ih => exact ih (q.onNewData slot)

/-- **What a run keeps**: from the constructed queue, a run of ingestions
leaves, for each timestamp, the first slot ingested with it, and nothing else. -/
theorem mem_ingestAll (slots : List Slot) (s : Sample) :
    s ∈ (empty.ingestAll slots).queue.toList ↔
      slots.find? (fun t => t.frameTimestamp = s.timestamp) = some s.slot := by
  rw [ingestAll_queue, empty, mem_insertAll, List.find?_map, Option.map_eq_some']
  constructor
  · rintro ⟨t, ht, rfl⟩
    exact ht
  · exact fun h => ⟨s.slot, h, rfl⟩

/-- A run keeps one entry per distinct timestamp it ingested. -/
theorem length_ingestAll (slots : List Slot) :
    (empty.ingestAll slots).queue.toList.length = (slots.map Slot.frameTimestamp).dedup.length := by
  rw [ingestAll_queue, empty, length_insertAll, List.map_map]
  rfl

/-- **No slot is lost exactly when the timestamps are distinct**. -/
theorem length_ingestAll_eq_iff (slots : List Slot) :
    (empty.ingestAll slots).queue.toList.length = slots.length ↔
      (slots.map Slot.frameTimestamp).Nodup := by
  rw [length_ingestAll, ← List.dedup_eq_self, ← List.length_map slots Slot.frameTimestamp]
  exact ⟨(List.dedup_sublist _).eq_of_length, fun h => by rw [h]⟩

/-- Two ready slots, samples 1 and 2, whose frames carry one timestamp: the
queue keeps sample 1 only. -/
theorem ingestAll_merges_equal_timestamps :
    (empty.ingestAll [⟨1, 100⟩, ⟨2, 100⟩]).queue.toList = [⟨⟨1, 100⟩⟩] := by
  decide

/-- **Arrival order does not matter when timestamps are distinct.** Slots become ready in
any order, not in sample order; when no two of them share a timestamp, every order of
ingesting them leaves the same queue. -/
theorem ingestAll_perm (slots slots' : List Slot) (hperm : slots.Perm slots')
    (hts : (slots.map Slot.frameTimestamp).Nodup) :
    (empty.ingestAll slots).queue.toList = (empty.ingestAll slots').queue.toList := by
  have hts' : (slots'.map Slot.frameTimestamp).Nodup := (hperm.map _).nodup_iff.mp hts
  refine StdSet.toList_eq_of_mem_iff fun s => ?_
  rw [mem_ingestAll, mem_ingestAll]
  exact (find?_key_eq_some_iff hts).trans (hperm.mem_iff.trans (find?_key_eq_some_iff hts').symm)

/-- Sample 2 ready before sample 1: the queue is the same as in sample order. -/
theorem ingestAll_perm_swapped :
    [(⟨2, 200⟩ : Slot), ⟨1, 100⟩].Perm [⟨1, 100⟩, ⟨2, 200⟩] ∧
      ([(⟨2, 200⟩ : Slot), ⟨1, 100⟩].map Slot.frameTimestamp).Nodup ∧
      (empty.ingestAll [⟨2, 200⟩, ⟨1, 100⟩]).queue.toList =
        (empty.ingestAll [⟨1, 100⟩, ⟨2, 200⟩]).queue.toList :=
  ⟨by decide, by decide, ingestAll_perm _ _ (by decide) (by decide)⟩

/-! ## The queue of the spec

§3 of the spec orders the queue by `decodeTimestamp` with `sampleNo` breaking
ties, which no two distinct slots share. The code's order is the first half of
that key. `ingestAll_eq_specQueue` says the two queues agree, element for
element and in order, on every run whose timestamps are distinct; on the runs
where they are not, `length_ingestAll_eq_iff` says the code loses slots. -/

/-- The order §3 of the spec gives the queue: by decode timestamp, ties broken
by sample number. -/
def Sample.specKey (s : Sample) : Int ×ₗ Nat := toLex (s.timestamp, s.slot.sampleNo)

/-- The queue §3 of the spec describes after a run of ingestions. -/
def specQueue (slots : List Slot) : StdSet Sample.specKey :=
  StdSet.insertAll _ (StdSet.empty _) (slots.map Sample.mk)

/-- **Refinement on distinct timestamps**: when no two ingested slots share a
timestamp, `queue_` is the queue of the spec. -/
theorem ingestAll_eq_specQueue (slots : List Slot) (hts : (slots.map Slot.frameTimestamp).Nodup) :
    (empty.ingestAll slots).queue.toList = (specQueue slots).toList := by
  have hcode : ((slots.map Sample.mk).map Sample.timestamp).Nodup := by rwa [List.map_map]
  have hspec : ((slots.map Sample.mk).map Sample.specKey).Nodup :=
    List.Nodup.of_map (fun k => (ofLex k).1) (by rwa [List.map_map])
  have hmem : ∀ y, y ∈ (empty.ingestAll slots).queue.toList ↔ y ∈ (specQueue slots).toList := by
    intro y
    rw [ingestAll_queue, empty, mem_insertAll, specQueue, mem_insertAll, find?_key_eq_some_iff hcode,
      find?_key_eq_some_iff hspec]
  have hnodup : ∀ {κ : Type} [LinearOrder κ] (key : Sample → κ) (q : StdSet key), q.toList.Nodup :=
    fun key q => (List.Pairwise.map key (fun _ _ h => h) q.sorted).nodup.of_map key
  have hsorted : (specQueue slots).toList.Sorted (fun a b => a.timestamp < b.timestamp) := by
    refine (specQueue slots).sorted.imp_of_mem fun {a b} ha hb hab => ?_
    rcases (Prod.Lex.lt_iff _ _).mp hab with h | ⟨h, hsn⟩
    · exact h
    · have hin : ∀ {c}, c ∈ (specQueue slots).toList → c ∈ slots.map Sample.mk := fun hc =>
        List.mem_of_find?_eq_some ((mem_insertAll _ _ _).mp hc)
      cases List.inj_on_of_nodup_map hcode (hin ha) (hin hb) h
      exact absurd hsn (lt_irrefl _)
  have : IsAntisymm Sample (fun a b => a.timestamp < b.timestamp) :=
    ⟨fun _ _ h h' => absurd (h.trans h') (lt_irrefl _)⟩
  exact List.eq_of_perm_of_sorted ((List.perm_ext_iff_of_nodup (hnodup _ _) (hnodup _ _)).mpr hmem)
    (empty.ingestAll slots).queue.sorted hsorted

/-- Samples 1 and 2 with timestamps 100 and 200 end in the queue of the spec. -/
theorem ingestAll_eq_specQueue_two :
    ([(⟨1, 100⟩ : Slot), ⟨2, 200⟩].map Slot.frameTimestamp).Nodup ∧
      (empty.ingestAll [⟨1, 100⟩, ⟨2, 200⟩]).queue.toList = (specQueue [⟨1, 100⟩, ⟨2, 200⟩]).toList :=
  ⟨by decide, ingestAll_eq_specQueue _ (by decide)⟩

end PlaybackQueue

end NdnRtc
