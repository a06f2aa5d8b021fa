import MessageRepeater.Repeater.Connections
import MessageRepeater.Subscriber.Floor

/-!
# What a connection sees of the process

Every step of the process is, for each connection, a step of that connection's threads, of a publisher
or of another record in the map, or nothing. So all that holds of one connection along every run of its
threads holds of each connection of the process.
-/

namespace MessageRepeater.Repeater
open Foundation Combiner Config Connection Subscriber Ingress

/-! ### The view of a step -/

@[simp] theorem siteOf_decode (host : Host) (k : Nat) (input : Input) :
    decode (host.siteOf k) input = decode host.site input := by
  cases input <;> rfl

theorem view_put {r : State} {k : Nat} {v : Ingress.State}
    (dispatcher : v.system.dispatcher = (r.view k).system.dispatcher) : (r.put k v).view k = v := by
  obtain ⟨system, texts⟩ := v
  obtain ⟨⟩ := system
  simp only [State.view] at dispatcher
  simp [State.put, State.setClient, State.view, clientOf, dispatcher]

theorem view_put_other {r : State} {k j : Nat} {v : Ingress.State} (other : j ≠ k) :
    (r.put k v).view j = { r.view j with system := { (r.view j).system with
      store := v.system.store
      logs := v.system.logs
      composite := v.system.composite
      dispatch := v.system.dispatch
      publishers := v.system.publishers } } := by
  simp [State.put, State.setClient, State.view, other]

theorem publisherStep_shared {d d' : Deployment} {s s' t : Subscriber.State} {id : Nat}
    {input : PublisherInput} (config : d'.config = d.config)
    (capacity : d'.pipeCapacity = d.pipeCapacity) (store : t.store = s.store) (logs : t.logs = s.logs)
    (publishers : t.publishers = s.publishers) (dispatch : t.dispatch = s.dispatch)
    (taken : publisherStep d s id input = some s') : publisherStep d' t id input = some { t with
      store := s'.store
      logs := s'.logs
      dispatch := s'.dispatch
      publishers := s'.publishers } := by
  obtain ⟨⟩ := t
  cases store
  cases logs
  cases publishers
  cases dispatch
  unfold publisherStep at taken ⊢
  rw [config, capacity]
  dsimp only at taken ⊢
  split at taken
  case h_1 | h_2 | h_4 => split at taken <;> cases taken <;> simp_all [State.setPublisher]
  case h_7 => cases taken
  all_goals
    cases taken
    simp_all [State.setPublisher]

/-- A connection's record is put into the map, or taken out. -/
def moveRecord (composite : ConsumeRecordComposite) (key : Key) : Option Nat → ConsumeRecordComposite
  | some record => { composite with consumeRecords := composite.consumeRecords.insert key record }
  | none => composite.removeRecord key

theorem step_other {d : Deployment} {s : Subscriber.State} {key : Key} {record : Option Nat}
    (apart : key ≠ d.key) : Subscriber.step d s (.other key record) =
      some { s with composite := moveRecord s.composite key record } := by
  simp only [Subscriber.step, if_neg apart]
  cases record <;> rfl

/-- What a connection's own threads leave to the other connections. -/
structure Apart (key : Key) (s s' : Subscriber.State) : Prop where
  store : s'.store = s.store
  logs : s'.logs = s.logs
  dispatch : s'.dispatch = s.dispatch
  dispatcher : s'.dispatcher = s.dispatcher
  publishers : s'.publishers = s.publishers
  composite : s'.composite = s.composite ∨ ∃ record, s'.composite = moveRecord s.composite key record

theorem readerStep_apart {d : Deployment} {s s' : Subscriber.State} {input : ReaderInput}
    (taken : readerStep d s input = some s') : Apart d.key s s' := by
  have composite : s'.composite = s.composite ∨
      ∃ record, s'.composite = moveRecord s.composite d.key record := by
    unfold readerStep at taken
    split at taken
    case h_10 topics order _ =>
      split at taken
      · split at taken
        · cases taken
          exact .inl rfl
        · rename_i composite created
          cases taken
          unfold ConsumeRecordComposite.createNewRecord at created
          split at created
          · cases created
          · split at created <;> cases created
            exact .inr ⟨some s.link.records.length, rfl⟩
      · cases taken
    case h_26 => cases taken
    case h_7 | h_9 | h_11 | h_13 | h_25 => split at taken <;> cases taken <;> exact .inl rfl
    all_goals
      cases taken
      exact .inl rfl
  have same := readerStep_same taken
  exact ⟨by rw [same], by rw [same], by rw [same], by rw [same], by rw [same], composite⟩

theorem step_apart {d : Deployment} {s s' : Subscriber.State} {action : Action}
    (publisher : ∀ id input, action ≠ .publisher id input) (dispatcher : action ≠ .dispatcher)
    (other : ∀ key record, action ≠ .other key record)
    (taken : Subscriber.step d s action = some s') : Apart d.key s s' := by
  cases action with
  | publisher id input => exact absurd rfl (publisher id input)
  | dispatcher => exact absurd rfl dispatcher
  | other key record => exact absurd rfl (other key record)
  | reader input => exact readerStep_apart taken
  | writer outcome =>
    have frame := writerStep_frame taken
    exact ⟨frame.store, frame.logs, frame.dispatch, frame.dispatcher, frame.publishers,
      .inl frame.composite⟩
  | writable =>
    obtain ⟨_, _, rfl⟩ := writableStep_same taken
    exact ⟨rfl, rfl, rfl, rfl, rfl, .inl rfl⟩
  | detector =>
    rw [detectorStep_same taken]
    exact ⟨rfl, rfl, rfl, rfl, rfl, .inl rfl⟩
  | reclaimer =>
    have same := reclaimerStep_same taken
    refine ⟨by rw [same], by rw [same], by rw [same], by rw [same], by rw [same], ?_⟩
    simp only [Subscriber.step, reclaimerStep] at taken
    split at taken
    case h_3 =>
      cases taken
      exact .inr ⟨none, rfl⟩
    all_goals cases taken <;> exact .inl rfl

/-! ### Every connection sees a run of its own threads -/

/-- How often the dispatch loop is still to visit connection `k`, the visit it makes included. -/
def DispatchPc.left : DispatchPc → Nat → Nat
  | .visit _ left _ => left
  | .notify j _ left _ => fun k => if k = j then left k + 1 else left k
  | _ => fun _ => 0

/-- A connection that is not open yet is in no list. -/
def Closed (host : Host) (r : State) : Prop :=
  ∀ k, r.opened ≤ k → r.clients k = newClient host ∧ r.dispatcher.left k = 0

/-- Connection `k` sees a step of its own system, or nothing. -/
def Sees (host : Host) (r r' : State) (k : Nat) : Prop :=
  r'.view k = r.view k ∨ ∃ input, Ingress.step (host.siteOf k) (r.view k) input = some (r'.view k)

theorem Sees.turn {host : Host} {r r' : State} {k : Nat} {action : Action}
    (inside : internal action = true) (texts : (r'.view k).texts = (r.view k).texts)
    (taken : Subscriber.step (host.siteOf k).deployment (r.view k).system action =
      some (r'.view k).system) : Sees host r r' k := by
  refine .inr ⟨.turn action, ?_⟩
  simp only [Ingress.step, decode, if_pos inside, taken, Input.subscribeText, Option.toList_none,
    List.append_nil, ← texts]

theorem Sees.dispatcher {host : Host} {r r' : State} {k : Nat}
    (texts : (r'.view k).texts = (r.view k).texts)
    (taken : Subscriber.dispatcherStep (host.siteOf k).deployment (r.view k).system =
      some (r'.view k).system) : Sees host r r' k :=
  @Sees.turn _ _ _ _ .dispatcher rfl texts taken

theorem dispatcherStep_sees {host : Host} {r r' : State} (closed : Closed host r)
    (taken : dispatcherStep host r = some r') (k : Nat) : Sees host r r' k := by
  unfold dispatcherStep at taken
  split at taken
  case h_1 at_ =>
    split at taken
    · rename_i ready
      cases taken
      refine .dispatcher rfl ?_
      simp [Subscriber.dispatcherStep, State.view, Host.siteOf, at_, DispatchPc.seen,
        ready]
    · cases taken
  case h_2 at_ =>
    split at taken
    all_goals
      rename_i pipe
      cases taken
      refine .dispatcher rfl ?_
      simp [Subscriber.dispatcherStep, State.view, at_, DispatchPc.seen, pipe]
  case h_6 topic left todo at_ =>
    split at taken
    · rename_i visited
      cases taken
      have none_left : left k = 0 := by
        by_cases opened : k < r.opened
        · exact visited k opened
        · have held := (closed k (Nat.le_of_not_lt opened)).2
          rwa [at_] at held
      refine .dispatcher rfl ?_
      simp [Subscriber.dispatcherStep, State.view, at_, DispatchPc.seen, none_left]
    · cases taken
  case h_7 j topic left todo at_ =>
    cases taken
    by_cases here : j = k
    · subst here
      refine .dispatcher ?_ ?_
      · simp [State.view, State.setClient]
      · simp [Subscriber.dispatcherStep, State.view, State.setClient, Host.siteOf,
          at_, DispatchPc.seen]
    · refine .inl ?_
      simp [State.view, State.setClient, at_, DispatchPc.seen, here, Ne.symm here]
  all_goals
    rename_i at_
    cases taken
    refine .dispatcher rfl ?_
    simp [Subscriber.dispatcherStep, State.view, at_, DispatchPc.seen]

theorem visitStep_sees {host : Host} {r r' : State} {j : Nat} (taken : visitStep r j = some r')
    (k : Nat) : Sees host r r' k := by
  unfold visitStep at taken
  split at taken
  · rename_i topic left todo at_
    split at taken
    · cases taken
    · rename_i count left_eq
      dsimp only at taken
      split at taken
      all_goals
        rename_i registered
        cases taken
        by_cases here : k = j
      · subst here
        refine .dispatcher ?_ ?_
        · simp [State.view, State.setClient]
        · cases queued : ((r.clients k).worker.submitWork topic).1
          all_goals
            simp [Subscriber.dispatcherStep, State.view, State.setClient, at_,
              DispatchPc.seen, left_eq, registered, queued]
      · refine .inl ?_
        cases queued : ((r.clients j).worker.submitWork topic).1
        all_goals
          simp [State.view, State.setClient, at_, DispatchPc.seen, here, Ne.symm here]
      · subst here
        refine .dispatcher rfl ?_
        simp [Subscriber.dispatcherStep, State.view, at_, DispatchPc.seen, left_eq,
          registered]
      · refine .inl ?_
        simp [State.view, at_, DispatchPc.seen, here]
  · cases taken

theorem decode_publisher_text {site : Site} {input : Input} {id : Nat} {published : PublisherInput}
    (decoded : decode site input = some (.publisher id published)) : input.subscribeText = none := by
  cases input with
  | clientFrame received =>
    simp only [decode] at decoded
    split at decoded <;> cases decoded
  | _ => rfl

theorem mayTake_own {r : State} {k : Nat} {action : Action} (may : r.mayTake k action = true) :
    (∃ id input, action = .publisher id input) ∨
      (k < r.opened ∧ (∀ id input, action ≠ .publisher id input) ∧ action ≠ .dispatcher ∧
        ∀ key record, action ≠ .other key record) := by
  cases action with
  | publisher id input => exact .inl ⟨id, input, rfl⟩
  | dispatcher | other => cases may
  | _ => exact .inr ⟨of_decide_eq_true may, nofun, nofun, nofun⟩

theorem input_cases {host : Host} {r r' : State} {j : Nat} {input : Input}
    (taken : step host r (.input j input) = some r') :
    ∃ action v, decode (host.siteOf j) input = some action ∧ r.mayTake j action = true ∧
      Ingress.step (host.siteOf j) (r.view j) input = some v ∧ r' = r.put j v := by
  simp only [step] at taken
  split at taken
  · cases taken
  · rename_i action decoded
    split at taken
    · rename_i may
      obtain ⟨v, moved, put⟩ := Option.map_eq_some_iff.mp taken
      exact ⟨action, v, decoded, may, moved, put.symm⟩
    · cases taken

theorem input_sees {host : Host} {r r' : State} {j : Nat} {input : Input}
    (taken : step host r (.input j input) = some r') (k : Nat) : Sees host r r' k := by
  obtain ⟨action, v, decoded, may, moved, rfl⟩ := input_cases taken
  obtain ⟨action', decoded', system, texts⟩ := step_system moved
  obtain rfl : action = action' := Option.some.inj (decoded.symm.trans decoded')
  rcases mayTake_own may with ⟨id, published, rfl⟩ | ⟨_, publisher, dispatch, other⟩
  · have same := publisherStep_same system
    by_cases here : k = j
    · subst here
      have dispatcher : v.system.dispatcher = (r.view k).system.dispatcher := by rw [same]
      exact .inr ⟨input, by rw [view_put dispatcher, moved]⟩
    · have shared := @publisherStep_shared (host.siteOf j).deployment (host.siteOf k).deployment
        (r.view j).system v.system (r.view k).system id published rfl rfl rfl rfl rfl rfl system
      refine .inr ⟨input, ?_⟩
      rw [siteOf_decode] at decoded
      have none_ := decode_publisher_text decoded
      have composite : v.system.composite = r.composite := by
        rw [same]
        rfl
      simp only [Ingress.step, siteOf_decode, decoded, Subscriber.step, shared, none_, Option.toList_none,
        List.append_nil, view_put_other here, composite]
      rfl
  · have apart := step_apart publisher dispatch other system
    by_cases here : k = j
    · subst here
      exact .inr ⟨input, by rw [view_put apart.dispatcher, moved]⟩
    · have shared : (r.put j v).view k = { r.view k with system := { (r.view k).system with
          composite := v.system.composite } } := by
        rw [view_put_other here, apart.store, apart.logs, apart.dispatch, apart.publishers]
        rfl
      rcases apart.composite with same | ⟨record, changed⟩
      · refine .inl ?_
        rw [shared, same]
        rfl
      · have other_key : host.keys j ≠ host.keys k := fun eq => here (host.fresh eq).symm
        refine @Sees.turn _ _ _ _ (.other (host.keys j) record) rfl ?_ ?_
        · rw [shared]
        · rw [shared, changed]
          exact step_other other_key

theorem step_sees {host : Host} {r r' : State} {event : Event} (closed : Closed host r)
    (taken : step host r event = some r') (k : Nat) : Sees host r r' k := by
  cases event with
  | accept =>
    cases taken
    exact .inl rfl
  | input j input => exact input_sees taken k
  | dispatcher => exact dispatcherStep_sees closed taken k
  | visit j => exact visitStep_sees taken k

theorem setClient_other {r : State} {j k : Nat} {client : Client} (other : k ≠ j) :
    (r.setClient j client).clients k = r.clients k := if_neg other

theorem input_closed {host : Host} {r r' : State} {j : Nat} {input : Input} (closed : Closed host r)
    (taken : step host r (.input j input) = some r') : Closed host r' := by
  obtain ⟨action, v, decoded, may, moved, rfl⟩ := input_cases taken
  obtain ⟨action', decoded', system, texts⟩ := step_system moved
  obtain rfl : action = action' := Option.some.inj (decoded.symm.trans decoded')
  intro k le
  refine ⟨?_, (closed k le).2⟩
  rw [← (closed k le).1]
  by_cases here : k = j
  · subst here
    rcases mayTake_own may with ⟨id, published, rfl⟩ | ⟨opened, _⟩
    · rw [decode_publisher_text decoded, Option.toList_none, List.append_nil] at texts
      simp only [State.put, State.setClient, if_pos, clientOf]
      rw [publisherStep_same system, texts]
      rfl
    · exact absurd opened (Nat.not_lt.mpr le)
  · exact setClient_other here

theorem dispatcherStep_closed {host : Host} {r r' : State} (closed : Closed host r)
    (taken : dispatcherStep host r = some r') : Closed host r' := by
  unfold dispatcherStep at taken
  split at taken
  case h_1 | h_6 =>
    split at taken <;> cases taken
    exact fun k le => ⟨(closed k le).1, rfl⟩
  case h_2 =>
    split at taken <;> cases taken
    · exact fun k le => ⟨(closed k le).1, rfl⟩
    · exact closed
  case h_5 topic todo at_ =>
    cases taken
    intro k le
    refine ⟨(closed k le).1, ?_⟩
    simp only [DispatchPc.left, (closed k le).1]
    rfl
  case h_7 j topic left todo at_ =>
    cases taken
    intro k le
    obtain ⟨idle, none_left⟩ := closed k le
    rw [at_] at none_left
    by_cases here : k = j
    · exact absurd ((if_pos here).symm.trans none_left) (Nat.succ_ne_zero _)
    · exact ⟨(setClient_other here).trans idle, (if_neg here).symm.trans none_left⟩
  all_goals
    cases taken
    exact fun k le => ⟨(closed k le).1, rfl⟩

theorem visitStep_closed {host : Host} {r r' : State} {j : Nat} (closed : Closed host r)
    (taken : visitStep r j = some r') : Closed host r' := by
  unfold visitStep at taken
  split at taken
  · rename_i topic left todo at_
    split at taken
    · cases taken
    · rename_i count left_eq
      have unvisited : ∀ k, r.opened ≤ k → k ≠ j ∧ left k = 0 := by
        intro k le
        have none_left := (closed k le).2
        rw [at_] at none_left
        refine ⟨?_, none_left⟩
        rintro rfl
        cases left_eq.symm.trans none_left
      dsimp only at taken
      split at taken
      all_goals
        cases taken
        intro k le
        obtain ⟨apart, zero⟩ := unvisited k le
      · refine ⟨(setClient_other apart).trans (closed k le).1, ?_⟩
        cases ((r.clients j).worker.submitWork topic).1
        · exact (if_neg apart).trans zero
        · exact (if_neg apart).trans ((if_neg apart).trans zero)
      · exact ⟨(closed k le).1, (if_neg apart).trans zero⟩
  · cases taken

theorem step_closed {host : Host} {r r' : State} {event : Event} (closed : Closed host r)
    (taken : step host r event = some r') : Closed host r' := by
  cases event with
  | accept =>
    cases taken
    exact fun k le => closed k (Nat.le_of_succ_le le)
  | input j input => exact input_closed closed taken
  | dispatcher => exact dispatcherStep_closed closed taken
  | visit j => exact visitStep_closed closed taken

theorem reachable_closed {host : Host} {r : State} (run : Run (step host) Free (initial host) r) :
    Closed host r :=
  run.keeps (fun _ _ => ⟨rfl, rfl⟩) fun _ _ _ closed _ taken => step_closed closed taken

/-- Seen from connection `k`, the process is its system of threads, from before the connection is made. -/
theorem run_view {host : Host} {r : State} (run : Run (step host) Free (initial host) r) (k : Nat) :
    Run (Ingress.step (host.siteOf k)) Free (Ingress.initial (host.siteOf k)) (r.view k) :=
  run.simulate fun _ _ _ before _ taken => step_sees (reachable_closed before) taken k

/-! ### What every connection keeps -/

theorem run_threads {host : Host} {r : State} (run : Run (step host) Free (initial host) r) (k : Nat) :
    Run (Subscriber.step (host.siteOf k).deployment) Free
      (Subscriber.initial (host.siteOf k).deployment) (r.view k).system :=
  run_system (run_view run k)

theorem Sees.system {host : Host} {r r' : State} {k : Nat} (sees : Sees host r r' k) :
    (r'.view k).system = (r.view k).system ∨ ∃ action,
      Subscriber.step (host.siteOf k).deployment (r.view k).system action = some (r'.view k).system := by
  rcases sees with same | ⟨input, taken⟩
  · exact .inl (congrArg Ingress.State.system same)
  · obtain ⟨action, _, moved, _⟩ := step_system taken
    exact .inr ⟨action, moved⟩

theorem step_grows {host : Host} {r r' : State} {event : Event}
    (run : Run (step host) Free (initial host) r) (taken : step host r event = some r') (k : Nat) :
    (r.clients k).link.carried <+: (r'.clients k).link.carried ∧ ∀ t, r.logs t <+: r'.logs t := by
  have threads := run_threads run k
  rcases (step_sees (reachable_closed run) taken k).system with same | ⟨action, moved⟩
  · have link : (r'.clients k).link = (r.clients k).link := congrArg Subscriber.State.link same
    have logs : r'.logs = r.logs := congrArg Subscriber.State.logs same
    rw [link, logs]
    exact ⟨List.prefix_rfl, fun t => List.prefix_rfl⟩
  · refine ⟨?_, (step_rings (reachable_delivering threads).rings moved).2⟩
    show (r.view k).system.link.carried <+: (r'.view k).system.link.carried
    rcases (step_carries (reachable_sound threads) moved).2 with same | ⟨bytes, more⟩ |
      ⟨_, _, frame, _, _, _, more⟩
    · rw [same]
    · rw [more]
      exact List.prefix_append _ _
    · rw [more]
      exact List.prefix_append _ _

theorem step_view_floored {host : Host} {r r' : State} {event : Event} {floor : Topic → Nat} {k : Nat}
    (run : Run (step host) Free (initial host) r) (taken : step host r event = some r')
    (floored : Floored floor (r.view k).system) : Floored floor (r'.view k).system := by
  rcases (step_sees (reachable_closed run) taken k).system with same | ⟨action, moved⟩
  · rw [same]
    exact floored
  · exact step_floored (reachable_delivering (run_threads run k)).rings floored moved

/-- A connection that is not open yet starts every topic at the end of its log. -/
theorem Closed.floored {host : Host} {r : State} (closed : Closed host r) {k : Nat}
    (le : r.opened ≤ k) : Floored (fun t => (r.logs t).length) (r.view k).system := by
  have idle := (closed k le).1
  refine ⟨fun t => Nat.le_refl _, ?_, ?_, ?_⟩
  all_goals simp only [State.view, idle]
  · nofun
  · nofun
  · unfold newClient
    dsimp only
    split <;> nofun

end MessageRepeater.Repeater
