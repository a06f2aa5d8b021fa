import MessageRepeater.Subscriber.ScanTurns

/-!
# Starvation in normal mode

A full socket ends the scan, and the next one starts from the first topic. Where that does not happen
between the turn of a topic and the turn of another one, neither gets two frames before the other has
had its turn.
-/

namespace MessageRepeater.Subscriber
open Foundation Combiner Config Connection

/-! ### The condition -/

/-- The socket is full at a point of the scan at which `b` still has its turn and `a` has not. -/
def State.cutsOff (s : State) (a b : Topic) : Action → Bool
  | .writer .wouldBlock =>
    match s.writer with
    | .normal (.deliver _ todo (.flush .send)) => decide (b ∈ todo ∧ a ∉ todo)
    | _ => false
  | _ => false

/-- The step does not cut `b` off after the turn of `a`. -/
def Uncut (a b : Topic) (s : State) (action : Action) : Prop := s.cutsOff a b action = false

/-- Nor has `b` nothing unread. -/
def UncutUnread (a b : Topic) (s : State) (action : Action) : Prop :=
  Uncut a b s action ∧ s.unread b = true

instance (a b : Topic) (s : State) (action : Action) : Decidable (Uncut a b s action) :=
  inferInstanceAs (Decidable (_ = _))

instance (a b : Topic) (s : State) (action : Action) : Decidable (UncutUnread a b s action) :=
  inferInstanceAs (Decidable (_ ∧ _))

theorem Uncut.unblocked {a b : Topic} {s : State} {action : Action} (uncut : Uncut a b s action)
    {move : ScanMove Topic} (blocks : move = .block → s.Blocks action) :
    ScanState.Unblocked a b s.scan move := by
  intro entry todo block phase later
  obtain ⟨rfl, topic, todo', at_⟩ := blocks block
  have sending : s.phase = .sending topic todo' := by rw [State.phase, at_]; rfl
  cases sending.symm.trans phase
  simp only [Uncut, State.cutsOff, at_, decide_eq_false_iff_not] at uncut
  by_contra passed
  exact uncut ⟨later, passed⟩

theorem Call.Fresh.setting {s : State} (fresh : s.writer.call.Fresh) : s.setting = none := by
  unfold State.setting
  split
  · rename_i pc at_
    rw [at_] at fresh
    cases pc with
    | deliver topic todo pc => cases fresh with | deliver => rfl
    | _ => rfl
  · rfl

/-- A step that completes a frame leaves the writer outside of a delivery. -/
theorem completing_setting {s s' : State} {action : Action} {topic : Topic}
    (taken : step d s action = some s') (grows : s.completed topic < s'.completed topic) :
    s'.setting = none := by
  have same : s'.link.history.frames ≠ s.link.history.frames := fun frames => by
    rw [State.completed, State.completed, Link.sent, Link.sent, frames] at grows
    exact Nat.lt_irrefl _ grows
  rcases step_output taken with moved | ⟨moved, _, writer⟩ | frame
  · cases moved with
    | flush _ moved link_eq _ next =>
      rcases moved.completes with ⟨_, _, _, rfl⟩ | ⟨frames, _⟩
      · exact next.1.setting
      · exact absurd (link_eq ▸ frames) same
    | deliver _ _ moved link_eq _ next =>
      cases moved with
      | flush moved =>
        rcases moved.completes with ⟨_, _, _, rfl⟩ | ⟨frames, _⟩
        · exact next.1.setting
        · exact absurd (link_eq ▸ frames) same
      | initializeTopic => exact absurd (by rw [link_eq, Link.initializeTopic_history]) same
      | _ => exact absurd (by rw [link_eq] <;> rfl) same
    | test _ link_eq | cache _ link_eq | other _ link_eq | close _ link_eq =>
      exact absurd (by rw [link_eq]) same
  · rw [State.completed, State.completed, moved.unseen.1] at grows
    exact absurd grows (Nat.lt_irrefl _)
  · exact absurd (by rw [frame.link]) same

theorem phase_late {s : State} {topic : Topic} (late : s.phase = .late topic) :
    s.link.pendingTopic = some topic := by
  unfold State.phase at late
  split at late
  · unfold NormalPc.phase at late
    split at late
    case h_3 => split at late <;> cases late
    case h_11 =>
      split at late
      · rename_i held
        cases late
        exact held
      · cases late
    all_goals cases late
  · cases late

theorem unread_listed {s : State} {topic : Topic} (turns : NormalTurns s) (unread : s.unread topic = true) :
    ∃ order, s.order = some order ∧ topic ∈ order := by
  unfold State.unread at unread
  split at unread
  · rename_i entry found
    obtain ⟨r, cached, found⟩ := Option.bind_eq_some_iff.mp found
    obtain ⟨order, known, member⟩ := turns.ordered.listed r topic (by rw [found]; rfl)
    refine ⟨order, ?_, member⟩
    rw [State.order, cached]
    exact known
  · cases unread

/-! ### The run as a run of scans -/

section
variable {d : Deployment} (normal : d.config.subscriberEnableEventLoop = false)
include normal

theorem run_scan {ok : State → Action → Prop} {allowed : ScanState Topic → ScanMove Topic → Prop}
    {s s' : State} (reached : Run (step d) Free (initial d) s) (run : Run (step d) ok s s')
    (allow : ∀ t action move, Run (step d) ok s t → ok t action → (move = .block → t.Blocks action) →
      (move = .pass → ∀ topic todo, t.phase = .scanning (topic :: todo) → t.unread topic = true →
        t.setting = some topic) → allowed t.scan move) :
    Run ScanState.step allowed s.scan s'.scan := by
  refine run.simulate_under fun t action t' before guard taken => ?_
  have there := reached.trans (before.weaken fun _ _ _ => trivial)
  have scan := (step_scan (run_turns normal there) (reachable_delivering there) taken).1
  refine scan.move.imp_right fun ⟨move, moved, blocks, passes⟩ => ⟨move, ?_, moved⟩
  exact allow t action move before guard blocks passes

theorem scan_placed {s : State} (reached : Run (step d) Free (initial d) s) : s.scan.Placed := by
  have outside : (initial d).scan.phase = .outside := by
    show (initial d).phase = .outside
    rw [State.phase, initial, normal]
    rfl
  have start : (initial d).scan.Placed := by
    refine ⟨?_, ?_, ?_⟩
    · rintro order ⟨⟩
    · rw [ScanState.span, outside]
      exact fun some_ => absurd rfl some_
    · rw [ScanState.current, outside]
      exact fun some_ => absurd rfl some_
  have scans : Run ScanState.step (fun _ _ => True) (initial d).scan s.scan :=
    run_scan normal .refl reached fun _ _ _ _ _ _ _ => trivial
  exact ScanState.run_placed start scans

/-- While `b` has something unread, the writer does not come to set its cursor. -/
theorem run_unset {s s' : State} {a b : Topic} (reached : Run (step d) Free (initial d) s)
    (unset : s.setting = none) (run : Run (step d) (UncutUnread a b) s s') : s'.setting ≠ some b := by
  induction run with
  | refl =>
    rw [unset]
    nofun
  | tail before action guard taken ih =>
    have there := reached.trans (before.weaken fun _ _ _ => trivial)
    have scan := (step_scan (run_turns normal there) (reachable_delivering there) taken).1
    intro set_
    rcases scan.setting b set_ with earlier | read
    · exact ih earlier
    · cases guard.2.symm.trans read

theorem served_between {s before after last : State} {a b : Topic} {action : Action}
    (reached : Run (step d) Free (initial d) s) (prompt : s.link.pendingTopic ≠ some a)
    (lead : Run (step d) (Uncut a b) s before) (taken : step d before action = some after)
    (first : before.completed a < after.completed a) (unread : after.unread b = true)
    (interval : Run (step d) (UncutUnread a b) after last)
    (second : after.completed a < last.completed a) :
    after.completed b < last.completed b ∨ after.link.emptied b < last.link.emptied b := by
  have there := reached.trans (lead.weaken fun _ _ _ => trivial)
  have here := there.tail action trivial taken
  have leads : Run ScanState.step (ScanState.Unblocked a b) s.scan before.scan :=
    run_scan normal reached lead fun _ _ _ _ uncut blocks _ => uncut.unblocked blocks
  have unset := completing_setting taken first
  have turns : Run ScanState.step (fun t move => ScanState.Unblocked a b t move ∧ ScanState.Attended b t move)
      after.scan last.scan :=
    run_scan normal here interval fun t action move run guard blocks passes =>
      ⟨guard.1.unblocked blocks, fun todo pass scanning =>
        run_unset normal here unset run (passes pass b todo scanning guard.2)⟩
  have served : ∃ order, after.scan.order = some order ∧ b ∈ order :=
    unread_listed (run_turns normal here) unread
  have once : after.scan.sent b + after.scan.skipped b < last.scan.sent b + last.scan.skipped b := by
    rcases (step_scan (run_turns normal there) (reachable_delivering there) taken).1.move with
      same | ⟨move, moved, _⟩
    · have sent : after.completed a = before.completed a := congrArg (ScanState.sent · a) same
      omega
    · exact ScanState.served_between (scan_placed normal reached) (fun late => prompt (phase_late late)) leads
        moved first served turns second
  have frames : after.scan.sent b = after.completed b ∧ last.scan.sent b = last.completed b := ⟨rfl, rfl⟩
  have empties : after.scan.skipped b = after.link.emptied b ∧ last.scan.skipped b = last.link.emptied b :=
    ⟨rfl, rfl⟩
  omega

/-- What comes before `a` in the scan is never cut off after the turn of `a`. -/
theorem uncut_ahead {s : State} {a b : Topic} (reached : Run (step d) Free (initial d) s)
    (ahead : ∀ order, s.order = some order → ScanState.After b a order) (action : Action) :
    Uncut a b s action := by
  unfold Uncut State.cutsOff
  split
  · split
    · rename_i topic todo at_
      rw [decide_eq_false_iff_not]
      rintro ⟨later, passed⟩
      have sending : s.scan.phase = .sending topic todo := by
        show s.phase = _
        rw [State.phase, at_]
        rfl
      exact passed ((scan_placed normal reached).later ahead sending later)
    · rfl
  · rfl

/-- Take two frames of `a`, and a topic `b` of the writer's record that has a message unread, which is not
empty, throughout. If no full socket cuts `b` off after the turn of `a`, from a moment before the first
frame on, then a frame of `b` is completed between the two, or `b` has used its turn for an empty
message. Where `b` comes before `a` in the scan, no step of any run cuts `b` off. -/
theorem served_between_frames {s : State} {a b : Topic} (reached : Run (step d) Free (initial d) s) :
    (∀ before after last action, s.link.pendingTopic ≠ some a → Run (step d) (Uncut a b) s before →
      step d before action = some after → before.completed a < after.completed a → after.unread b = true →
      Run (step d) (UncutUnread a b) after last → after.completed a < last.completed a →
      after.completed b < last.completed b ∨ after.link.emptied b < last.link.emptied b) ∧
    ((∀ order, s.order = some order → ScanState.After b a order) → ∀ action, Uncut a b s action) := by
  constructor
  · intro before after last action prompt lead taken first unread interval second
    exact served_between normal reached prompt lead taken first unread interval second
  · exact uncut_ahead normal reached

end

/-- A client subscribes to "A" and "B"; "A" gets two messages, "B" those given, and the answer is sent. -/
def competing (bodies : List Bytes) : List Action :=
  [Action.reader .run, .reader (.request (.subscribe [ascii "A", ascii "B"])),
    .reader (.order [ascii "A", ascii "B"])] ++
    List.replicate 8 (Action.reader .run) ++
    [Action.publisher 0 (.create (ascii "A") (ascii "a")), .publisher 0 .run,
      .publisher 0 (.create (ascii "A") (ascii "b")), .publisher 0 .run] ++
    bodies.flatMap (fun body => [.publisher 0 (.create (ascii "B") body), .publisher 0 .run]) ++
    List.replicate 5 (Action.writer .interrupted) ++ [Action.writer (.accepted 19)]

/-- The writer goes on until it is at a send; the frame is accepted, and the next step completes it. -/
def sending (steps : Nat) : List Action :=
  List.replicate steps (Action.writer .interrupted) ++ [Action.writer (.accepted 10), .writer .interrupted]

/-- The same with a socket that is full at the first attempt. -/
def resending (steps : Nat) : List Action :=
  List.replicate steps (Action.writer .interrupted) ++ .writer .wouldBlock :: sending 4

/-- Two frames of "A" in a row. -/
def twoFrames (before after last : State) : Bool :=
  before.completed (ascii "A") == 0 && after.completed (ascii "A") == 1 &&
    last.completed (ascii "A") == 2 && !last.link.history.failed

/-- With room in the socket, the frame of "B" comes between the two of "A"; and "A", which comes first, is
never cut off after "B". -/
theorem served_between_frames_once : ∃ s before after last, twoFrames before after last = true ∧
    (after.completed (ascii "B") < last.completed (ascii "B") ∨
      after.link.emptied (ascii "B") < last.link.emptied (ascii "B")) ∧
    s.order = some [ascii "A", ascii "B"] ∧ ∀ action, Uncut (ascii "B") (ascii "A") s action := by
  obtain ⟨s, reached, tested⟩ := Run.exists_of_replay (step (sample false)) Free (initial (sample false))
    (competing [ascii "c", ascii "e"])
    (fun s => decide (s.link.pendingTopic ≠ some (ascii "A") ∧ s.order = some [ascii "A", ascii "B"]) &&
      (replay (guarded (step (sample false)) (Uncut (ascii "A") (ascii "B"))) s (sending 12)).any
        fun before => (step (sample false) before (.writer .interrupted)).any fun after =>
          (replay (guarded (step (sample false)) (UncutUnread (ascii "A") (ascii "B"))) after
            (sending 4 ++ sending 11 ++ [.writer .interrupted])).any fun last =>
              twoFrames before after last && after.unread (ascii "B"))
    (by decide +kernel)
  obtain ⟨here, tested⟩ := (Bool.and_eq_true _ _).mp tested
  obtain ⟨prompt, known⟩ := of_decide_eq_true here
  obtain ⟨before, after, last, lead, taken, interval, tested⟩ :=
    Run.exists_around _ _ _ s _ _ _ (fun before after last => twoFrames before after last && after.unread _)
      tested
  obtain ⟨two, unread⟩ := (Bool.and_eq_true _ _).mp tested
  have counts := two
  simp only [twoFrames, Bool.and_eq_true, beq_iff_eq] at counts
  have served := (served_between_frames rfl reached).1 before after last _ prompt lead taken (by omega) unread
    interval (by omega)
  refine ⟨s, before, after, last, two, served, known, (served_between_frames rfl reached).2 ?_⟩
  intro order same
  cases known.symm.trans same
  exact ⟨[ascii "B"], List.suffix_rfl, List.mem_singleton_self _⟩

/-- "B" has something unread between the two frames of "A" and gets no frame: with a socket that is full at
the first attempt of each frame, and with one that never is, for an empty message uses up the turn. -/
theorem topic_starves :
    (∃ before after last, Run (step (sample false)) Free (initial (sample false)) before ∧
      step (sample false) before (.writer .interrupted) = some after ∧
      Run (step (sample false)) (fun s _ => s.unread (ascii "B") = true) after last ∧
      (twoFrames before after last && last.completed (ascii "B") == 0) = true) ∧
    (∃ before after last,
      Run (step (sample false)) (fun _ action => action ≠ .writer .wouldBlock) (initial (sample false))
        before ∧
      step (sample false) before (.writer .interrupted) = some after ∧
      Run (step (sample false)) (fun s action => s.unread (ascii "B") = true ∧ action ≠ .writer .wouldBlock)
        after last ∧
      (twoFrames before after last && last.completed (ascii "B") == 0) = true) := by
  constructor
  · exact Run.exists_around _ _ _ _ (competing [ascii "c"] ++ resending 12) _
      (resending 10 ++ [.writer .interrupted])
      (fun before after last => twoFrames before after last && last.completed (ascii "B") == 0)
      (by decide +kernel)
  · exact Run.exists_around _ _ _ _ (competing [[], ascii "c"] ++ sending 12) _
      (sending 14 ++ [.writer .interrupted])
      (fun before after last => twoFrames before after last && last.completed (ascii "B") == 0)
      (by decide +kernel)

end MessageRepeater.Subscriber
