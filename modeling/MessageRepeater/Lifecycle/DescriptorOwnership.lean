import MessageRepeater.Lifecycle.Descriptors

/-!
# System calls meet their own sockets

`close`, `shutdown`, `send` and `recv` take a number. Each is meant for the socket that the number was
accepted with, and meets that socket or none as long as `accept` returns no number that is still held.
-/

namespace MessageRepeater.Lifecycle
open Foundation Combiner Config Connection

/-! ### Alive detection -/

theorem Fewer.goPass {config : RepeaterConfig} {s s' : State} (fewer : Fewer config s s') {role : Role}
    {pc : PassPc}
    (listed : ∀ key ∈ (s'.passes role).toErase.map Prod.fst, key ∈ pc.toErase.map Prod.fst) :
    Fewer config s (s'.goPass role pc) :=
  { fewer with
    entries := by
      intro c entry
      apply fewer.entries c
      refine ⟨entry.1, fun before => entry.2 ?_⟩
      simp only [State.goPass] at before ⊢
      by_cases here : (s'.sockets c).role = role
      · subst here
        rw [Function.update_self]
        exact listed _ before
      · rw [Function.update_of_ne here]
        exact before }

theorem Fewer.use {config : RepeaterConfig} {s : State} (c : ConnId) (fd : Nat) (op : DescriptorOp) :
    Fewer config s (s.use c fd op) :=
  { Fewer.refl config s with }

/-- Where alive detection erases an entry it forgets that it has closed it. -/
theorem erase_fewer {config : RepeaterConfig} {s : State} {role : Role} {key : Key} {owner : ConnId}
    {expired : List (Key × ConnId)} (here : s.passes role = .erase ((key, owner) :: expired)) :
    Fewer config s
      ({ s with
        clientConnections :=
          Function.update s.clientConnections role ((s.clientConnections role).erase key) }.goPass role
        (.afterErase key owner expired role)) := by
  refine { Fewer.refl config s with entries := fun c entry => .ofEntry ?_ }
  obtain ⟨owned, pending⟩ := entry
  have toErase : (PassPc.afterErase key owner expired role).toErase = expired := by
    cases role <;> rfl
  unfold State.owned at owned
  simp only [State.goPass] at owned pending
  unfold State.entryUsesFd State.owned
  by_cases mine : (s.sockets c).role = role
  · rw [mine, Function.update_self] at owned
    rw [mine, Function.update_self, toErase] at pending
    obtain ⟨entity, present, eq⟩ := Option.map_eq_some_iff.mp owned
    obtain ⟨other, before⟩ := lookup_erase_cases present
    rw [mine, before, here]
    refine ⟨congrArg some eq, fun listed => ?_⟩
    rcases List.mem_cons.mp listed with erased | later
    · exact other erased
    · exact pending later
  · rw [Function.update_of_ne mine] at owned pending
    exact ⟨owned, pending⟩

theorem passMove_fewer {config : RepeaterConfig} {s s' : State} {role : Role}
    (moved : PassMove config s role s') : Fewer config s s' := by
  cases moved with
  | start here => exact (Fewer.refl config s).goPass fun _ listed => by rw [here] at listed; cases listed
  | @expire now expired key entity here found idle new =>
    refine (Fewer.use _ _ _).goPass fun k listed => ?_
    simp only [use_same] at listed
    rw [here] at listed
    obtain ⟨entry, before, rfl⟩ := List.mem_map.mp listed
    exact List.mem_map_of_mem (List.mem_append_left _ before)
  | scanned here all =>
    exact (Fewer.refl config s).goPass fun _ listed => by rw [here] at listed; exact listed
  | finish here => exact (Fewer.refl config s).goPass fun _ listed => by rw [here] at listed; exact listed
  | erase here => exact erase_fewer here
  | record here =>
    refine Fewer.goPass ?_ fun _ listed => by rw [here] at listed; exact listed
    exact { Fewer.refl config s with }
  | subscribed here =>
    rw [noteKeyed_spec]
    refine Fewer.goPass ?_ fun _ listed => by rw [here] at listed; exact listed
    exact { Fewer.refl config s with }
  | @alive key owner expired here =>
    rw [releaseAlive_eq]
    refine Fewer.goPass ?_ fun _ listed => by rw [here] at listed; exact listed
    refine { Fewer.refl config s with threads := ?_, detector := ?_ }
    · intro c uses
      apply State.Holds.ofThreads
      dsimp only at uses
      split at uses
      · exact usesFd_dropAlive uses
      · exact uses
    · exact fun c uses => .ofDetector (DetectorPc.usesFd_congr uses (by dsimp only; split <;> rfl))
  | @maps key owner expired here =>
    rw [releaseMaps_eq]
    refine Fewer.goPass ?_ fun _ listed => by rw [here] at listed; exact listed
    refine { Fewer.refl config s with threads := ?_, arguments := ?_, detector := ?_ }
    · intro c uses
      apply State.Holds.ofThreads
      dsimp only at uses
      split at uses <;> exact uses
    · intro c found
      exact .ofArguments (lookup_erase_cases found).2
    · exact fun c uses => .ofDetector (DetectorPc.usesFd_congr uses (by dsimp only; split <;> rfl))

/-! ### What a step does to the table and the log -/

/-- At most one system call, by a holder of its number. -/
inductive FdEffect (config : RepeaterConfig) (s s' : State) : Prop where
  | quiet (fds : s'.fds = s.fds) (log : s'.descriptorUses = s.descriptorUses)
  | call {c : ConnId} {op : DescriptorOp} (held : s.Holds config (s.sockets c).clientFd c)
      (fds : s'.fds =
        if op = .close then Function.update s.fds (s.sockets c).clientFd none else s.fds)
      (log : s'.descriptorUses =
        { op, issuer := c, hit := s.fds (s.sockets c).clientFd } :: s.descriptorUses)

theorem move_effect {config : RepeaterConfig} {s : State} {c : ConnId} {operation : Operation}
    {t : Threads} {pc : DetectorPc}
    (uses : (∃ op, operation = .use op) → s.Holds config (s.sockets c).clientFd c) :
    FdEffect config s ((s.move c operation t).goDetector pc) := by
  have fds := perform_fds s c operation
  have log := perform_descriptorUses s c operation
  cases operation with
  | use op =>
    simp only [Operation.use.injEq] at fds
    exact .call (uses ⟨op, rfl⟩) fds log
  | _ => exact .quiet (fds.trans (if_neg (by simp))) log

theorem passMove_effect {config : RepeaterConfig} {s s' : State} {role : Role} (keyed : Keyed s)
    (moved : PassMove config s role s') : FdEffect config s s' := by
  cases moved with
  | @expire now expired key entity here found idle new =>
    obtain ⟨known, number⟩ := keyed.ofEntry found
    have held : s.entryUsesFd entity.owner := by
      unfold State.entryUsesFd State.owned
      rw [keyed.served _ _ known.server, known.key, found, here, number]
      exact ⟨rfl, new⟩
    refine @FdEffect.call _ _ _ _ .close (.ofEntry held) ?_ ?_
    all_goals
      rw [number]
      rfl
  | @maps key owner expired here =>
    rw [releaseMaps_eq]
    cases found : s.detectingArgs.lookup key with
    | none => exact .quiet rfl rfl
    | some c =>
      have held : s.detectingArgs.lookup (s.sockets c).key = some c := by
        rw [(keyed.arguments key c found).key, found]
      exact @FdEffect.call _ _ _ _ .shutdown (.ofArguments held) rfl rfl
  | @alive key owner expired here =>
    rw [releaseAlive_eq]
    exact .quiet rfl rfl
  | @subscribed key owner expired here =>
    rw [noteKeyed_spec]
    exact .quiet rfl rfl
  | _ => exact .quiet rfl rfl

/-! ### Every call meets its own socket -/

/-- How often a call has closed the socket. -/
def closes (s : State) (c : ConnId) : Nat :=
  s.descriptorUses.countP fun use => use.op = .close ∧ use.hit = some c

/-- A call meets the socket that it is meant for, or none, and no socket is closed twice. -/
structure Owned (s : State) : Prop where
  meets : ∀ use ∈ s.descriptorUses, ∀ c, use.hit = some c → c = use.issuer
  once : ∀ c, closes s c ≤ 1

/-- With what carries it along: held numbers are unambiguous, and what has been closed is not open. -/
structure Sound (config : RepeaterConfig) (s : State) : Prop extends Owned s where
  clear : Unambiguous s.fds (s.Holds config)
  closed : ∀ c, 0 < closes s c → c < s.count ∧ ∀ n, s.fds n ≠ some c

theorem sound_initial (config : RepeaterConfig) (now : Nat) : Sound config (initial config now) where
  meets _ used := by cases used
  once _ := Nat.zero_le 1
  clear _ _ _ _ found := by cases found
  closed _ used := absurd used (Nat.lt_irrefl 0)

theorem Sound.effect {config : RepeaterConfig} {s s' : State} (sound : Sound config s)
    (keyed : Keyed s) (effect : FdEffect config s s') (fewer : Fewer config s s')
    (count : s'.count = s.count) : Sound config s' := by
  have less := sound.clear.fewer fewer.holds
  cases effect with
  | quiet fds log =>
    have same : ∀ c, closes s' c = closes s c := fun c => by rw [closes, closes, log]
    exact {
      meets := log ▸ sound.meets
      once := fun c => same c ▸ sound.once c
      clear := fds ▸ less
      closed := fun c used => by rw [count, fds]; exact sound.closed c (same c ▸ used) }
  | @call c op held fds log =>
    have own : ∀ other, s.fds (s.sockets c).clientFd = some other → other = c :=
      fun other => sound.clear _ _ held other
    have meets : ∀ use ∈ s'.descriptorUses, ∀ other, use.hit = some other → other = use.issuer := by
      intro use used
      rw [log] at used
      rcases List.mem_cons.mp used with rfl | before
      · exact own
      · exact sound.meets use before
    have counted : ∀ other, closes s' other =
        closes s other + if op = .close ∧ s.fds (s.sockets c).clientFd = some other then 1 else 0 := by
      intro other
      simp only [closes, log, List.countP_cons, decide_eq_true_eq]
    by_cases closing : op = .close
    · rw [if_pos closing] at fds
      refine { meets, once := fun other => ?_, clear := fds ▸ less.retire _, closed := fun other used => ?_ }
      · rw [counted]
        split
        · rename_i here
          have fresh : ¬ 0 < closes s other := fun before =>
            (sound.closed other before).2 _ here.2
          omega
        · exact sound.once other
      · rw [counted] at used
        rw [count, fds]
        by_cases here : s.fds (s.sockets c).clientFd = some other
        · obtain ⟨accepted, number⟩ := keyed.issued _ other here
          refine ⟨accepted, fun n open_ => ?_⟩
          by_cases same : n = (s.sockets c).clientFd
          · rw [same, Function.update_self] at open_
            cases open_
          · rw [Function.update_of_ne same] at open_
            exact same ((keyed.issued n other open_).2.symm.trans number)
        · rw [if_neg fun both => here both.2] at used
          obtain ⟨accepted, shut⟩ := sound.closed other used
          exact ⟨accepted, fun n open_ => shut n (update_none_some open_)⟩
    · rw [if_neg closing] at fds
      have same : ∀ other, closes s' other = closes s other := by
        intro other
        rw [counted, if_neg fun both => closing both.1]
        rfl
      exact {
        meets
        once := fun other => same other ▸ sound.once other
        clear := fds ▸ less
        closed := fun other used => by rw [count, fds]; exact sound.closed other (same other ▸ used) }

theorem Sound.accept {config : RepeaterConfig} {s : State} (sound : Sound config s) (keyed : Keyed s)
    {socket : Socket} (unheld : ∀ c, c < s.count → ¬ s.Holds config socket.clientFd c) :
    Sound config (s.accept socket) := by
  have free : ∀ c, ¬ s.Holds config socket.clientFd c := fun c holds =>
    unheld c (holds.lt_count keyed) holds
  have added : ∀ n c, (s.accept socket).Holds config n c →
      s.Holds config n c ∨ (n = socket.clientFd ∧ c = s.count) := by
    intro n c holds
    by_cases new : c = s.count
    · obtain ⟨number, _⟩ := holds
      simp only [State.accept, new, Function.update_self] at number
      exact .inr ⟨number.symm, new⟩
    · left
      have socketsSame : (s.accept socket).sockets c = s.sockets c := Function.update_of_ne new _ _
      have threadsSame : (s.accept socket).threads c = s.threads c := Function.update_of_ne new _ _
      obtain ⟨number, holder⟩ := holds
      rw [State.entryUsesFd, socketsSame, threadsSame] at holder
      rw [socketsSame] at number
      subst number
      rcases holder with threads | entry | arguments | detector
      · exact .ofThreads threads
      · exact .ofEntry entry
      · exact .ofArguments arguments
      · exact .ofDetector (DetectorPc.usesFd_congr detector (by rw [threadsSame]))
  exact {
    meets := sound.meets
    once := sound.once
    clear := sound.clear.issue s.count free added
    closed := by
      intro c used
      obtain ⟨accepted, shut⟩ := sound.closed c used
      refine ⟨Nat.lt_succ_of_lt accepted, fun n open_ => ?_⟩
      simp only [State.accept] at open_
      by_cases same : n = socket.clientFd
      · rw [same, Function.update_self] at open_
        cases open_
        exact Nat.lt_irrefl _ accepted
      · rw [Function.update_of_ne same] at open_
        exact shut n open_ }

theorem accepting_uses {s : State} {c : ConnId} (accepting : (s.threads c).handler = .accepting)
    (eventLoop : Bool) : (s.threads c).usesFd eventLoop = true := by
  rw [Threads.usesFd, accepting]
  rfl

theorem handOver_fewer {config : RepeaterConfig} {s : State} {role : Role} {c : ConnId} {pc : HandlerPc}
    (accepting : (s.threads c).handler = .accepting) : Fewer config s (s.handOver role c pc) := by
  refine { Fewer.refl config s with threads := fun conn uses => ?_, detector := fun conn uses => ?_ }
  · apply State.Holds.ofThreads
    by_cases same : conn = c
    · exact same ▸ accepting_uses accepting _
    · simp only [State.handOver, Function.update_of_ne same] at uses
      exact uses
  · apply State.Holds.ofDetector
    refine DetectorPc.usesFd_congr uses ?_
    by_cases same : conn = c
    · subst same
      simp [State.handOver]
    · simp [State.handOver, Function.update_of_ne same]

theorem enroll_fewer {config : RepeaterConfig} {s : State} {role : Role} {c : ConnId}
    (accepting : (s.threads c).handler = .accepting) : Fewer config s (s.enroll role c) := by
  have handed : Fewer config s (s.handOver role c (.first role)) := handOver_fewer accepting
  refine { handed with entries := fun conn entry => ?_ }
  have owned := (owned_insert (s := s.handOver role c (.first role))).symm.trans entry.1
  split at owned
  · simp only [Option.some.injEq, Prod.mk.injEq] at owned
    exact owned.2 ▸ .ofThreads (accepting_uses accepting _)
  · exact .ofEntry ⟨owned, entry.2⟩

theorem Sound.thread {config : RepeaterConfig} {s : State} (sound : Sound config s) (keyed : Keyed s)
    {c : ConnId} {operation : Operation} {t : Threads} (moved : ThreadMove config s c operation t) :
    Sound config (s.move c operation t) := by
  refine sound.effect keyed ?_ moved.fewer (by simp [State.move])
  rw [← move_goDetector]
  exact move_effect fun uses => .ofThreads ((threadMove_releases moved).uses (.inl uses))

theorem step_sound {config : RepeaterConfig} {s s' : State} {action : Action} (keyed : Keyed s)
    (sound : Sound config s) (unheld : Unheld config s action)
    (taken : step config s action = some s') : Sound config s' := by
  cases step_cases taken with
  | tick seconds => exact sound.effect keyed (.quiet rfl rfl) { Fewer.refl config s with } rfl
  | accept vacant closed => exact sound.accept keyed unheld
  | @refuse role c inHand free =>
    have accepting := (keyed.inHand role c inHand).2.2
    have held : s.Holds config (s.sockets c).clientFd c := .ofThreads (accepting_uses accepting _)
    have closed : Sound config (s.use c (s.sockets c).clientFd .close) :=
      sound.effect keyed (.call held rfl rfl) (.use _ _ _) rfl
    have keyed : Keyed (s.use c (s.sockets c).clientFd .close) := keyed.shrink .close
    exact closed.effect keyed (.quiet rfl rfl) (handOver_fewer accepting) rfl
  | @enroll role c inHand free =>
    have accepting := (keyed.inHand role c inHand).2.2
    exact sound.effect keyed (.quiet rfl rfl) (enroll_fewer accepting) rfl
  | handler moved => exact sound.thread keyed (handlerStep_cases moved)
  | writer moved => exact sound.thread keyed (writerStep_cases moved)
  | @copy order idle free all =>
    refine sound.effect keyed (.quiet rfl rfl) { Fewer.refl config s with detector := ?_ } rfl
    intro c uses
    obtain ⟨entry, listed, rfl⟩ := List.mem_map.mp (all.mem_iff.mp uses.1)
    have found : s.detectingArgs.lookup entry.1 = some entry.2 := AList.mem_lookup_iff.mpr listed
    apply State.Holds.ofArguments
    rw [(keyed.arguments entry.1 entry.2 found).key, found]
  | @detector pc c operation t moved =>
    obtain ⟨fewer, uses⟩ := @detectorStep_fewer config _ _ _ _ _ moved
    exact sound.effect keyed (move_effect fun call => .ofDetector (uses call)) fewer
      (by simp [State.move, State.goDetector])
  | pass moved =>
    exact sound.effect keyed (passMove_effect keyed moved) (passMove_fewer moved)
      (passMove_shrinks keyed moved).same.1

/-- While `accept` returns no number that is still held, every system call on a connection's number meets
its own socket or none, and no socket is closed twice. -/
theorem descriptors_owned {config : RepeaterConfig} {now : Nat} {s : State}
    (run : Run (step config) (Unheld config) (initial config now) s) : Owned s := by
  have both : Keyed s ∧ Sound config s := by
    induction run with
    | refl => exact ⟨keyed_initial config now, sound_initial config now⟩
    | tail _ action unheld taken ih =>
      exact ⟨step_keyed ih.1 taken, step_sound ih.1 ih.2 unheld taken⟩
  exact both.2.toOwned

/-- A publisher connection ends, alive detection closes its number once more and erases its entry, and the
next connection gets the number. -/
theorem descriptors_owned_reissued :
    ∃ s, Run (step {}) (Unheld {}) (initial {} 100000) s ∧ s.fds 5 = some 1 ∧ Owned s := by
  let first := ascii "127.0.0.1:9000"
  let second := ascii "127.0.0.1:9001"
  obtain ⟨s, run, reissued⟩ := Run.exists_of_replay (step {}) (Unheld {}) (initial {} 100000)
    [.accept .publisher first 5, .enroll .publisher, .handler 0 .broken, .handler 0 .run,
      .handler 0 .run, .pass .publisher .run, .pass .publisher (.expire first), .pass .publisher .run,
      .pass .publisher .run, .pass .publisher .run, .accept .publisher second 5, .enroll .publisher]
    (fun s => s.fds 5 == some 1) (by decide)
  exact ⟨s, run, by simpa using reissued, descriptors_owned run⟩

/-- The first connection's handler has closed the number 5, the second connection gets it, and alive
detection closes it for the first one. -/
theorem descriptor_closed_for_another :
    ∃ s, Run (step {}) Free (initial {} 100000) s ∧
      { op := .close, issuer := 0, hit := some 1 } ∈ s.descriptorUses ∧ ¬ Owned s := by
  let first := ascii "127.0.0.1:9000"
  let second := ascii "127.0.0.1:9001"
  obtain ⟨s, run, closed⟩ := Run.exists_of_replay (step {}) Free (initial {} 100000)
    [.accept .publisher first 5, .enroll .publisher, .handler 0 .broken, .handler 0 .run,
      .handler 0 .run, .accept .publisher second 5, .enroll .publisher, .pass .publisher .run,
      .pass .publisher (.expire first)]
    (fun s => s.descriptorUses.contains { op := .close, issuer := 0, hit := some 1 }) (by decide)
  have listed := List.contains_iff_mem.mp closed
  refine ⟨s, run, listed, fun owned => ?_⟩
  cases owned.meets _ listed 1 rfl

end MessageRepeater.Lifecycle
