/-
The hand-off of captured frames between the two threads of `CameraCapturer`
(`camera-capturer.cpp`, the `USE_I420` path, which is the one compiled).

The capture module calls `OnIncomingCapturedFrame` on its own thread. Under `capture_cs_`
that swaps the incoming frame into `capturedFrame_`, and after leaving the lock it sets
`captureEvent_`. The capturer's thread runs `process` in a loop. It waits up to 100 ms for
the event. If the event came and `capturedFrame_` is not of zero size, it swaps the frame
into `deliverFrame_` under `capture_cs_`, empties `capturedFrame_`, and hands
`deliverFrame_` to the frame consumer.

`capturedFrame_` holds one frame, so a frame still there when the next one arrives is
overwritten and never delivered: the hand-off drops stale frames by design. What it does
guarantee, over every interleaving of the two threads:

* the frames handed to the consumer are captured frames, never an empty one, in the order
  they were captured, and no capture twice (`delivered_sublist_captured`);
* the newest captured frame is never the one dropped (`newest_frame_kept`);
* a frame in `capturedFrame_` always has a wake-up coming: the event is set, the capture
  thread is about to set it, or the delivery thread is past its wait
  (`captured_frame_has_wakeup`); and the steps the two threads already owe deliver it
  (`captured_frame_delivered`).

The wait can return with `capturedFrame_` empty, since a frame can be taken on the wake-up
of an earlier one, before its own `Set`. The `IsZeroSize` test is what keeps an empty frame
from the consumer (`Inv.checked_full`).

`captureEvent_` is WebRTC's `EventWrapper`, which is not among the sources. It is modelled
by the contract WebRTC documents for it, and the results assume that contract: an
auto-reset event, so `Set` leaves it signalled until one `Wait` returns `kEventSignaled`
and clears it, and a `Set` is never lost, however many come before that `Wait`. A wait that
times out after 100 ms is the step that leaves everything as it was.

Each step is one critical section, or one statement outside a lock, taken as atomic.
`deliver_cs_` is taken by the delivery thread only, so it orders nothing against the capture
thread and is not modelled. The `IsZeroSize` test reads `capturedFrame_` outside
`capture_cs_` and is its own step here. The `render_time_ms` test only traces; starting and
stopping `captureThread_` are left out.
-/
import Mathlib.Data.List.Basic

set_option autoImplicit false

namespace NdnRtc.CameraCapturer

/-! ## The two threads -/

/-- Where the capture thread stands in `OnIncomingCapturedFrame`. -/
inductive CapturePc where
  /-- Outside the callback. -/
  | idle
  /-- The frame is swapped in; `captureEvent_.Set()` has not run yet. -/
  | swapped
  deriving DecidableEq, Repr

/-- Where the delivery thread stands in a pass of `process`. -/
inductive DeliverPc where
  /-- Before `captureEvent_.Wait(100)`. -/
  | idle
  /-- The wait returned `kEventSignaled`. -/
  | woke
  /-- `capturedFrame_` was found not to be of zero size. -/
  | checked
  /-- The frame is in `deliverFrame_` and not yet handed to the consumer. -/
  | taken
  deriving DecidableEq, Repr

/-- The capturer's state as the two threads share it. A frame is a value of `α`; `none` is a
frame of zero size. `captured` and `delivered` are history, not members of the class: the
frames `OnIncomingCapturedFrame` was called with and the frames `onDeliverFrame` was called
with, in order. -/
structure State (α : Type) where
  capturedFrame : Option α
  deliverFrame : Option α
  captureEvent : Bool
  frameConsumer : Bool
  capturePc : CapturePc
  deliverPc : DeliverPc
  captured : List α
  delivered : List (Option α)
  deriving DecidableEq, Repr

variable {α : Type}

/-- Both frames empty, the event not set, both threads idle; `frameConsumer` says whether a
consumer is attached (`frameConsumer_` is not null). -/
def init (frameConsumer : Bool) : State α :=
  ⟨none, none, false, frameConsumer, .idle, .idle, [], []⟩

/-- One atomic step of one of the two threads. -/
inductive Action (α : Type) where
  /-- Capture thread: `capturedFrame_.SwapFrame(&videoFrame)` under `capture_cs_`. -/
  | incomingCapturedFrame (videoFrame : α)
  /-- Capture thread: `captureEvent_.Set()`. -/
  | setCaptureEvent
  /-- Delivery thread: `captureEvent_.Wait(100)`, which clears the event it returns on. -/
  | waitCaptureEvent
  /-- Delivery thread: `!capturedFrame_.IsZeroSize()`. -/
  | checkCapturedFrame
  /-- Delivery thread: `deliverFrame_.SwapFrame(&capturedFrame_)` and
  `capturedFrame_.ResetSize()` under `capture_cs_`. -/
  | swapFrames
  /-- Delivery thread: `frameConsumer_->onDeliverFrame(deliverFrame_)`, if there is one. -/
  | deliverFrame
  deriving DecidableEq, Repr

/-- The step an action takes, or `none` when its thread is not at that point. A wait that
times out leaves everything as it was. -/
def step (s : State α) : Action α → Option (State α)
  | .incomingCapturedFrame videoFrame =>
    if s.capturePc = .idle then
      some { s with capturedFrame := some videoFrame, capturePc := .swapped,
                    captured := s.captured ++ [videoFrame] }
    else none
  | .setCaptureEvent =>
    if s.capturePc = .swapped then some { s with captureEvent := true, capturePc := .idle }
    else none
  | .waitCaptureEvent =>
    if s.deliverPc = .idle then
      some (if s.captureEvent then { s with captureEvent := false, deliverPc := .woke } else s)
    else none
  | .checkCapturedFrame =>
    if s.deliverPc = .woke then
      some { s with deliverPc := if s.capturedFrame.isSome then .checked else .idle }
    else none
  | .swapFrames =>
    if s.deliverPc = .checked then
      some { s with deliverFrame := s.capturedFrame, capturedFrame := none, deliverPc := .taken }
    else none
  | .deliverFrame =>
    if s.deliverPc = .taken then
      some { s with
        delivered := if s.frameConsumer then s.delivered ++ [s.deliverFrame] else s.delivered,
        deliverPc := .idle }
    else none

/-- A schedule: the actions of both threads in the order they interleave. It fails as soon as
an action's thread is not at that point. -/
def run (s : State α) : List (Action α) → Option (State α)
  | [] => some s
  | a :: as =>
    match step s a with
    | some s' => run s' as
    | none => none

@[simp] theorem run_nil (s : State α) : run s [] = some s := rfl

theorem run_cons_of_step {s s' : State α} {a : Action α} (h : step s a = some s')
    (as : List (Action α)) : run s (a :: as) = run s' as := by
  simp only [run, h]

/-- What holds of one step holds along a whole schedule. -/
theorem run_induction (P : State α → Prop)
    (hstep : ∀ s a s', P s → step s a = some s' → P s') :
    ∀ (as : List (Action α)) {s s' : State α}, P s → run s as = some s' → P s'
  | [], _, _, hs, h => by cases h; exact hs
  | a :: as, s, _, hs, h => by
    cases ha : step s a with
    | none => simp [run, ha] at h
    | some s₁ => exact run_induction P hstep as (hstep s a s₁ hs ha) (by rwa [run_cons_of_step ha] at h)

/-- No step attaches or detaches the consumer. -/
theorem step_frameConsumer {s s' : State α} {a : Action α} (h : step s a = some s') :
    s'.frameConsumer = s.frameConsumer := by
  cases a <;> obtain ⟨-, ⟨⟩⟩ := Option.ite_none_right_eq_some.mp h <;> (try split) <;> rfl

/-! ## The invariant -/

/-- The frame the delivery thread has taken and not yet handed on. -/
def takenFrame (s : State α) : List α :=
  if s.deliverPc = .taken then s.deliverFrame.toList else []

/-- The frames still on their way to the consumer: the taken one, then the one in
`capturedFrame_`. -/
def inFlight (s : State α) : List α := takenFrame s ++ s.capturedFrame.toList

/-- What every reachable state satisfies. -/
structure Inv (s : State α) : Prop where
  /-- Every frame handed on is non-empty; those and the frames in flight are captured frames
  in capture order; with a consumer, they end with the newest capture. -/
  order : ∃ fs, s.delivered = fs.map some ∧ List.Sublist (fs ++ inFlight s) s.captured ∧
    (s.frameConsumer = true → (fs ++ inFlight s).getLast? = s.captured.getLast?)
  /-- Only the delivery thread empties `capturedFrame_`, so it stays full after the test. -/
  checked_full : s.deliverPc = .checked → s.capturedFrame.isSome
  /-- A taken frame is never empty. -/
  taken_full : s.deliverPc = .taken → s.deliverFrame.isSome
  /-- A frame in `capturedFrame_` has a wake-up coming. -/
  wakeup : s.capturedFrame.isSome →
    s.captureEvent = true ∨ s.capturePc = .swapped ∨ s.deliverPc = .woke ∨ s.deliverPc = .checked

theorem Inv.init (c : Bool) : Inv (init c : State α) :=
  ⟨⟨[], rfl, List.nil_sublist _, fun _ => rfl⟩, nofun, nofun, nofun⟩

/-- The capture thread's swap keeps the invariant: the new frame goes last in flight. -/
theorem Inv.incoming {s : State α} (hs : Inv s) (f : α) :
    Inv { s with capturedFrame := some f, capturePc := .swapped, captured := s.captured ++ [f] } := by
  obtain ⟨⟨fs, hd, hsub, -⟩, -, htaken, -⟩ := hs
  have hpre : List.Sublist (fs ++ takenFrame s) s.captured :=
    (List.sublist_append_left _ s.capturedFrame.toList).trans (by rw [List.append_assoc]; exact hsub)
  refine ⟨⟨fs, hd, ?_, fun _ => ?_⟩, fun _ => rfl, htaken, fun _ => .inr (.inl rfl)⟩
  · simpa only [inFlight, List.append_assoc] using hpre.append_right [f]
  · simp [inFlight]

/-- Handing a taken frame on keeps the invariant. -/
theorem Inv.deliver {s : State α} (hs : Inv s) (hpc : s.deliverPc = .taken) :
    Inv { s with
      delivered := if s.frameConsumer then s.delivered ++ [s.deliverFrame] else s.delivered,
      deliverPc := .idle } := by
  obtain ⟨⟨fs, hd, hsub, hlast⟩, -, htaken, hwake⟩ := hs
  obtain ⟨d, hdf⟩ := Option.isSome_iff_exists.mp (htaken hpc)
  have hin : inFlight s = d :: s.capturedFrame.toList := by simp [inFlight, takenFrame, hpc, hdf]
  refine ⟨?_, nofun, nofun, fun h => ?_⟩
  · cases hc : s.frameConsumer
    · refine ⟨fs, by simp [hc, hd], ?_, by simp⟩
      rw [hin] at hsub
      simpa only [inFlight, takenFrame, reduceCtorEq, if_false, List.nil_append] using
        (List.sublist_cons_self _ _).append_left fs |>.trans hsub
    · refine ⟨fs ++ [d], by simp [hc, hd, hdf], ?_, fun _ => ?_⟩ <;>
        simp only [inFlight, takenFrame, reduceCtorEq, if_false, List.nil_append,
          List.append_assoc, List.singleton_append]
      · rwa [hin] at hsub
      · rw [← hlast hc, hin]
  · rcases hwake h with h' | h' | h' | h' <;> simp_all

/-- **Every step keeps the invariant.** -/
theorem Inv.step {s s' : State α} {a : Action α} (hs : Inv s) (h : step s a = some s') : Inv s' := by
  cases a with
  | incomingCapturedFrame f =>
    obtain ⟨-, ⟨⟩⟩ := Option.ite_none_right_eq_some.mp h
    exact hs.incoming f
  | setCaptureEvent =>
    obtain ⟨-, ⟨⟩⟩ := Option.ite_none_right_eq_some.mp h
    exact ⟨hs.order, hs.checked_full, hs.taken_full, fun _ => .inl rfl⟩
  | waitCaptureEvent =>
    obtain ⟨hpc, h⟩ := Option.ite_none_right_eq_some.mp h
    cases hev : s.captureEvent <;> simp only [hev, Option.some.injEq] at h <;> subst h
    · exact hs
    · have hin : inFlight { s with captureEvent := false, deliverPc := .woke } = inFlight s := by
        simp [inFlight, takenFrame, hpc]
      exact ⟨hin ▸ hs.order, nofun, nofun, fun _ => .inr (.inr (.inl rfl))⟩
  | checkCapturedFrame =>
    obtain ⟨hpc, ⟨⟩⟩ := Option.ite_none_right_eq_some.mp h
    have hin : ∀ pc : DeliverPc, pc ≠ .taken →
        inFlight { s with deliverPc := pc } = inFlight s := fun pc hpc' => by
      simp [inFlight, takenFrame, hpc, hpc']
    have hnt : (if s.capturedFrame.isSome then DeliverPc.checked else .idle) ≠ .taken := by
      split <;> nofun
    refine ⟨hin _ hnt ▸ hs.order, fun h => ?_, fun h => absurd h hnt, fun h => ?_⟩
    · by_cases hsome : s.capturedFrame.isSome <;> simp_all
    · simp [h]
  | swapFrames =>
    obtain ⟨hpc, ⟨⟩⟩ := Option.ite_none_right_eq_some.mp h
    have hin : inFlight
        { s with deliverFrame := s.capturedFrame, capturedFrame := none, deliverPc := .taken } =
          inFlight s := by simp [inFlight, takenFrame, hpc]
    exact ⟨hin ▸ hs.order, nofun, fun _ => hs.checked_full hpc, nofun⟩
  | deliverFrame =>
    obtain ⟨hpc, ⟨⟩⟩ := Option.ite_none_right_eq_some.mp h
    exact hs.deliver hpc

/-- **Every reachable state satisfies the invariant.** -/
theorem inv_of_run {c : Bool} {sched : List (Action α)} {s : State α}
    (h : run (init c) sched = some s) : Inv s :=
  run_induction Inv (fun _ _ _ hs ha => hs.step ha) sched (Inv.init c) h

theorem frameConsumer_of_run {c : Bool} {sched : List (Action α)} {s : State α}
    (h : run (init c) sched = some s) : s.frameConsumer = c :=
  run_induction (fun s => s.frameConsumer = c) (fun _ _ _ hs ha => (step_frameConsumer ha).trans hs)
    sched rfl h

/-! ## What the hand-off guarantees -/

/-- **Delivered frames are captured frames, in order.** Whatever the interleaving, the
consumer is never handed an empty frame, and the frames it is handed are the captured
frames with some left out, in the order they were captured, none twice. -/
theorem delivered_sublist_captured (c : Bool) (sched : List (Action α)) (s : State α)
    (h : run (init c) sched = some s) : ∃ fs, s.delivered = fs.map some ∧ List.Sublist fs s.captured := by
  obtain ⟨fs, hd, hsub, -⟩ := (inv_of_run h).order
  exact ⟨fs, hd, (List.sublist_append_left _ _).trans hsub⟩

/-- Two frames, the second captured while the first is being handed on. -/
def twoFrames : List (Action Nat) :=
  [.incomingCapturedFrame 1, .setCaptureEvent, .waitCaptureEvent, .checkCapturedFrame,
    .swapFrames, .incomingCapturedFrame 2, .deliverFrame]

theorem delivered_sublist_captured_twoFrames :
    ∃ s, run (init true) twoFrames = some s ∧
      ∃ fs, s.delivered = fs.map some ∧ List.Sublist fs s.captured :=
  ⟨_, rfl, delivered_sublist_captured true twoFrames _ rfl⟩

/-- **The newest frame is never the one dropped.** With a consumer attached, the last frame
captured is in `capturedFrame_`, taken by the delivery thread, or the last one delivered. -/
theorem newest_frame_kept (sched : List (Action α)) (s : State α)
    (h : run (init true) sched = some s) (f : α) (hf : s.captured.getLast? = some f) :
    s.capturedFrame = some f ∨ (s.deliverPc = .taken ∧ s.deliverFrame = some f) ∨
      s.delivered.getLast? = some (some f) := by
  obtain ⟨fs, hd, -, hlast⟩ := (inv_of_run h).order
  have hl := (hlast (frameConsumer_of_run h)).trans hf
  simp only [inFlight, List.getLast?_append] at hl
  cases hc : s.capturedFrame with
  | some g =>
    simp only [hc, Option.toList_some, List.getLast?_singleton, Option.or_some,
      Option.some.injEq] at hl
    exact .inl (congrArg some hl)
  | none =>
    right
    simp only [hc, Option.toList_none, List.getLast?_nil, Option.none_or, takenFrame] at hl
    split at hl
    · cases hdf : s.deliverFrame <;> simp_all
    · exact .inr (by simpa [hd, List.getLast?_map] using hl)

theorem newest_frame_kept_twoFrames :
    ∃ s, run (init true) twoFrames = some s ∧ s.captured.getLast? = some 2 ∧
      (s.capturedFrame = some 2 ∨ (s.deliverPc = .taken ∧ s.deliverFrame = some 2) ∨
        s.delivered.getLast? = some (some 2)) :=
  ⟨_, rfl, rfl, newest_frame_kept twoFrames _ rfl 2 rfl⟩

/-- **A waiting frame has a wake-up coming.** Whenever `capturedFrame_` holds a frame, the
event is set, the capture thread has yet to set it, or the delivery thread is already past
its wait: the delivery thread never sleeps through a frame. -/
theorem captured_frame_has_wakeup (c : Bool) (sched : List (Action α)) (s : State α)
    (h : run (init c) sched = some s) (f : α) (hf : s.capturedFrame = some f) :
    s.captureEvent = true ∨ s.capturePc = .swapped ∨ s.deliverPc = .woke ∨
      s.deliverPc = .checked :=
  (inv_of_run h).wakeup (by simp [hf])

theorem captured_frame_has_wakeup_twoFrames :
    ∃ s, run (init true) twoFrames = some s ∧ s.capturedFrame = some 2 ∧
      (s.captureEvent = true ∨ s.capturePc = .swapped ∨ s.deliverPc = .woke ∨
        s.deliverPc = .checked) :=
  ⟨_, rfl, rfl, captured_frame_has_wakeup true twoFrames _ rfl 2 rfl⟩

/-! ## Progress -/

/-- The capture thread's `Set`, if it still owes one. -/
def pendingSet (s : State α) : List (Action α) :=
  if s.capturePc = .swapped then [.setCaptureEvent] else []

/-- One pass of `process` that finds a frame. -/
def processPass : List (Action α) :=
  [.waitCaptureEvent, .checkCapturedFrame, .swapFrames, .deliverFrame]

/-- The steps the two threads owe a frame in `capturedFrame_`: the rest of the delivery
thread's current pass, and a full pass after the capture thread's pending `Set` when the
delivery thread is idle or still handing on an earlier frame. -/
def owedSteps (s : State α) : List (Action α) :=
  match s.deliverPc with
  | .idle => pendingSet s ++ processPass
  | .woke => [.checkCapturedFrame, .swapFrames, .deliverFrame]
  | .checked => [.swapFrames, .deliverFrame]
  | .taken => .deliverFrame :: (pendingSet s ++ processPass)

/-- From an idle delivery thread with a wake-up coming, the pending `Set` and one pass hand
on the frame in `capturedFrame_`. -/
theorem run_pendingSet_processPass {s : State α} {f : α} (hpc : s.deliverPc = .idle)
    (hf : s.capturedFrame = some f) (hc : s.frameConsumer = true)
    (hwake : s.captureEvent = true ∨ s.capturePc = .swapped) :
    ∃ s', run s (pendingSet s ++ processPass) = some s' ∧ s'.delivered.getLast? = some (some f) := by
  by_cases hsw : s.capturePc = .swapped
  · simp [pendingSet, processPass, run, step, hsw, hpc, hf, hc]
  · have hev : s.captureEvent = true := hwake.resolve_right hsw
    simp [pendingSet, processPass, run, step, hsw, hpc, hf, hc, hev]

/-- **A waiting frame is delivered by the steps already owed.** With a consumer attached,
the frame in `capturedFrame_` is handed on once the two threads run the steps they owe it,
with no further capture. -/
theorem captured_frame_delivered (sched : List (Action α)) (s : State α)
    (h : run (init true) sched = some s) (f : α) (hf : s.capturedFrame = some f) :
    ∃ s', run s (owedSteps s) = some s' ∧ s'.delivered.getLast? = some (some f) := by
  have hs := inv_of_run h
  have hc := frameConsumer_of_run h
  have hwake := hs.wakeup (by simp [hf])
  cases hpc : s.deliverPc with
  | idle =>
    simp only [owedSteps, hpc]
    exact run_pendingSet_processPass hpc hf hc (by simpa [hpc] using hwake)
  | woke => simp [owedSteps, run, step, hpc, hf, hc]
  | checked => simp [owedSteps, run, step, hpc, hf, hc]
  | taken =>
    simp only [owedSteps, hpc]
    have hstep : step s .deliverFrame = some { s with
        delivered := if s.frameConsumer then s.delivered ++ [s.deliverFrame] else s.delivered,
        deliverPc := .idle } := by simp [step, hpc]
    rw [run_cons_of_step hstep]
    exact run_pendingSet_processPass rfl hf hc (by simpa [hpc] using hwake)

theorem captured_frame_delivered_twoFrames :
    ∃ s, run (init true) twoFrames = some s ∧ s.capturedFrame = some 2 ∧
      ∃ s', run s (owedSteps s) = some s' ∧ s'.delivered.getLast? = some (some 2) :=
  ⟨_, rfl, rfl, captured_frame_delivered twoFrames _ rfl 2 rfl⟩

end NdnRtc.CameraCapturer
