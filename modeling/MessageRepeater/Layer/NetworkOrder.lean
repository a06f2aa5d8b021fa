import MessageRepeater.Layer.Network

/-!
# Order in a network of repeaters

Each layer thread stores what its upstream's log has, in that order, whatever the other threads of the two
repeaters do. So a message goes from repeater to repeater without being made up, repeated or overtaken.
-/

namespace MessageRepeater.Layer.Network
open Foundation Combiner Config Connection Subscriber Publisher Repeater Ingress
variable {Node Hop : Type}

/-! ### Each thread follows its upstream -/

section Hops
variable [DecidableEq Node] [DecidableEq Hop] [Fintype Hop] {net : Network Node Hop}
  {s s' : State Node Hop} {h : Hop}

theorem step_hop {action : Action Node Hop} {noted : List (Appended × Nat)}
    (bounded : ∀ n, StringsBounded (net.host n).site.parse) (run : Run (step net) Free (initial net) s)
    (following : Following (view net s h) noted) (taken : step net s action = some s') :
    ∃ noted', Following (view net s' h) noted' := by
  have upstream := run_repeater run (net.upstream h)
  have goes : (s'.nodes (net.upstream h)).1 = (s.nodes (net.upstream h)).1 ∨ ∃ event, Repeater.step
      (net.host (net.upstream h)) (s.nodes (net.upstream h)).1 event = some (s'.nodes (net.upstream h)).1 := by
    rcases step_node taken (net.upstream h) with same | ⟨event, moved, _⟩
    · exact .inl (congrArg Prod.fst same)
    · exact .inr ⟨event, recorded_step moved⟩
  have after := run_repeater (run.tail action trivial taken) (net.upstream h)
  -- Another's action moves the upstream at most.
  have others : s'.threads h = s.threads h → ∃ noted', Following (view net s' h) noted' := by
    intro same
    have kept : threadOf (view net s' h) = threadOf (view net s h) := same
    exact ⟨noted, follow_upstream following upstream goes kept⟩
  -- The thread's own action first, as that of a chain, and then what the upstream has become.
  have own : ∀ {moved} {action : Layer.Action}, Layer.step (net.chain h) (view net s h) action = some moved →
      threadOf (view net s' h) = threadOf moved → (s'.nodes (net.upstream h)).1 = moved.upstream ∨
        moved.upstream = (s.nodes (net.upstream h)).1 → ∃ noted', Following (view net s' h) noted' := by
    intro moved action stepped same node
    obtain ⟨noted', kept⟩ := @step_following (net.chain h) (view net s h) moved action noted
      (bounded (net.upstream h)) following upstream stepped
    refine ⟨noted', ?_⟩
    rcases node with there | still
    · have now : Run (Repeater.step (net.host (net.upstream h))) Free (Repeater.initial (net.host (net.upstream h)))
          moved.upstream := there ▸ after
      exact follow_upstream kept now (.inl there) same
    · rw [← still] at upstream goes
      exact follow_upstream kept upstream goes same
  cases step_move taken with
  | node => exact others rfl
  | @alone g action moved stepped _ nothing =>
    by_cases mine : h = g
    · subst mine
      apply own stepped
      · exact if_pos rfl
      · rcases layer_upstream stepped with ⟨rfl, _⟩ | ⟨event, rfl, _⟩ | ⟨_, _, still⟩
        · cases nothing
        · cases nothing
        · exact .inr still
    · exact others (if_neg mine)
  | @both g action moved n event node' stepped _ also with_ =>
    by_cases mine : h = g
    · subst mine
      apply own stepped
      · exact if_pos rfl
      · have now := recorded_step with_
        rcases layer_upstream stepped with ⟨rfl, accepted⟩ | ⟨_, rfl, read⟩ | ⟨_, _, still⟩
        · cases also
          refine .inl ?_
          simp only [State.setNode, if_pos]
          exact Option.some.inj (now.symm.trans accepted)
        · cases also
          refine .inl ?_
          simp only [State.setNode, if_pos]
          exact Option.some.inj (now.symm.trans read)
        · exact .inr still
    · exact others (if_neg mine)

theorem run_hop (bounded : ∀ n, StringsBounded (net.host n).site.parse)
    (run : Run (step net) Free (initial net) s)
    (h : Hop) : ∃ noted, Following (view net s h) noted := by
  induction run with
  | refl => exact ⟨[], rfl, fun _ none_ => absurd none_ List.not_mem_nil, .nil, fun _ here => by cases here⟩
  | tail before action _ taken ih =>
    obtain ⟨noted, following⟩ := ih
    exact step_hop bounded before following taken

end Hops

/-! ### What each thread stores -/

/-- The ledger of the thread's repeater has what the thread has appended. -/
structure Entered (net : Network Node Hop) (s : State Node Hop) (h : Hop) : Prop where
  pc : (s.nodes (net.downstream h)).1.publishers (net.thread h) = storing (s.threads h).layer
  layer : (s.nodes (net.downstream h)).2.creating (net.thread h) = false
  stored : (s.nodes (net.downstream h)).2.storedBy (.layer (net.thread h)) =
    (s.threads h).appended.map fun entry => (entry.topic, entry.body)

section Entries
variable {net : Network Node Hop} {s s' : State Node Hop} {h : Hop}

/-- The thread's repeater goes on with something else. -/
theorem Entered.others {event : Event} {node : Repeater.State × Ledger} (entered : Entered net s h)
    (thread : storing (s'.threads h).layer = storing (s.threads h).layer ∧
      (s'.threads h).appended = (s.threads h).appended)
    (taken : recorded (net.host (net.downstream h)) (s.nodes (net.downstream h)) event = some node)
    (nodes : s'.nodes (net.downstream h) = node) (other : stores event ≠ some (net.thread h)) :
    Entered net s' h := by
  obtain ⟨publishers, creating, stored⟩ := recorded_others taken other
  refine ⟨?_, ?_, ?_⟩
  · rw [nodes, publishers, entered.pc, thread.1]
  · rw [nodes, creating, entered.layer]
  · rw [nodes, stored, entered.stored, thread.2]

theorem Entered.still (entered : Entered net s h)
    (thread : storing (s'.threads h).layer = storing (s.threads h).layer ∧
      (s'.threads h).appended = (s.threads h).appended)
    (nodes : s'.nodes (net.downstream h) = s.nodes (net.downstream h)) : Entered net s' h := by
  refine ⟨?_, ?_, ?_⟩
  · rw [nodes, entered.pc, thread.1]
  · rw [nodes, entered.layer]
  · rw [nodes, entered.stored, thread.2]

/-- A message that the thread has read is a thread's of its repeater. -/
theorem Entered.read {k i : Nat} {topic : Topic} {body : Bytes} {events left : List RecvEvent}
    {frame : Bytes × Bytes} {node : Repeater.State × Ledger} (entered : Entered net s h)
    (layer : (s'.threads h).layer = .append k i topic body)
    (appended : (s'.threads h).appended = (s.threads h).appended)
    (read : readSocketFrame events = (some frame, left))
    (kept : relayed (net.chain h).context frame.1 frame.2 = some (topic, body))
    (taken : recorded (net.host (net.downstream h)) (s.nodes (net.downstream h))
      (.input 0 (.layerFrame (net.thread h) events)) = some node)
    (nodes : s'.nodes (net.downstream h) = node) : Entered net s' h := by
  have decoded : decode ((net.host (net.downstream h)).siteOf 0) (.layerFrame (net.thread h) events) =
      some (.publisher (net.thread h) (.relay topic body)) := by
    simp only [decode, read]
    show (relayed (net.chain h).context frame.1 frame.2).map _ = _
    rw [kept]
    rfl
  obtain ⟨r', moved, rfl⟩ := Option.map_eq_some_iff.mp taken
  have move := (input_publisher decoded moved).1
  rw [after_publisher decoded] at nodes
  refine ⟨?_, ?_, ?_⟩
  · rw [nodes, layer]
    exact move.relayed
  · rw [nodes]
    exact if_pos rfl
  · rw [nodes, appended]
    exact entered.stored

/-- The thread goes on storing, for itself and for its repeater. -/
theorem run_stores {chain : Chain} {v moved : Layer.State} {d : Deployment} {r r' : Subscriber.State} {id : Nat}
    {ledger : Ledger} (taken : runStep chain v = some moved) (move : PublisherMove d r id .run r')
    (pc : r.publishers id = storing v.layer) (config : chain.downstream.site.deployment.config = d.config)
    (store : v.downstream.store = r.store) (dispatch : v.downstream.dispatch = r.dispatch)
    (layer : ledger.creating id = false) :
    r'.publishers id = storing moved.layer ∧ (ledger.note id r r' .run).creating id = false ∧
      ∃ more, moved.appended = v.appended ++ more ∧
        (ledger.note id r r' .run).storedBy (.layer id) =
          ledger.storedBy (.layer id) ++ more.map fun entry => (entry.topic, entry.body) := by
  have author : ledger.author id = .layer id := by
    unfold Ledger.author
    rw [layer]
    rfl
  cases move with
  | @append topic message store' here stored =>
    obtain ⟨k, frame, at_⟩ := storing_append (pc.symm.trans here)
    simp only [runStep, at_, store, stored, Option.some.injEq] at taken
    subst taken
    have noted : ledger.note id r ({ r with store := store', logs := appendLog r.logs topic message }.setPublisher id
        (if d.config.subscriberEnableEventLoop then .submit topic else .idle)) .run =
        { ledger with stored := ledger.stored ++ [(ledger.author id, topic, message)] } := by
      simp [Ledger.note, here, State.setPublisher, appendLog]
    rw [noted, setPublisher_self]
    refine ⟨?_, layer, [{ topic, body := message, connection := k, frame }], rfl, ?_⟩
    · rw [config]
      split <;> rfl
    · rw [storedBy_append, author, if_pos rfl]
      rfl
  | @drop topic message store' here refused =>
    obtain ⟨k, frame, at_⟩ := storing_append (pc.symm.trans here)
    simp only [runStep, at_, store, refused, Option.some.injEq] at taken
    subst taken
    have noted : ledger.note id r (r.setPublisher id .idle) .run = ledger := by
      simp [Ledger.note, here, State.setPublisher]
    rw [noted, setPublisher_self]
    exact ⟨rfl, layer, [], (List.append_nil _).symm, (List.append_nil _).symm⟩
  | @submit topic here =>
    obtain ⟨k, at_⟩ := storing_submit (pc.symm.trans here)
    simp only [runStep, at_, dispatch, Option.some.injEq] at taken
    subst taken
    rw [note_run (by simp [here]), setPublisher_self]
    refine ⟨?_, layer, [], (List.append_nil _).symm, (List.append_nil _).symm⟩
    dsimp only
    split <;> rfl
  | notify here =>
    obtain ⟨k, at_⟩ := storing_notify (pc.symm.trans here)
    simp only [runStep, at_, Option.some.injEq] at taken
    subst taken
    rw [note_run (by simp [here]), setPublisher_self]
    exact ⟨rfl, layer, [], (List.append_nil _).symm, (List.append_nil _).symm⟩

end Entries

section Along
variable [DecidableEq Node] [DecidableEq Hop] {net : Network Node Hop} {s s' : State Node Hop} {h : Hop}

/-- The thread's own action, and what it is to one of the repeaters. -/
theorem Entered.sent {action : Layer.Action} {moved : Layer.State} {n : Node} {event : Event}
    {node : Repeater.State × Ledger} (entered : Entered net s h)
    (taken : Layer.step (net.chain h) (view net s h) action = some moved)
    (sent : Sent net h moved.layer action n event) (with_ : recorded (net.host n) (s.nodes n) event = some node) :
    Entered net ((s.setThread h (threadOf moved)).setNode n node) h := by
  have thread : ((s.setThread h (threadOf moved)).setNode n node).threads h = threadOf moved := if_pos rfl
  -- What it is to its upstream leaves what it stores as it is.
  have upstream : stores event = none → storing moved.layer = storing (s.threads h).layer ∧
      moved.appended = (s.threads h).appended → Entered net ((s.setThread h (threadOf moved)).setNode n node) h := by
    intro nothing idle
    by_cases here : net.downstream h = n
    · subst here
      exact entered.others (by rw [thread]; exact idle) with_ (if_pos rfl) (by simp [nothing])
    · exact entered.still (by rw [thread]; exact idle) (if_neg here)
  cases sent with
  | accept => exact upstream rfl (layer_idle taken rfl (.inr (.inl rfl)))
  | fetch => exact upstream rfl (layer_idle taken rfl (.inr (.inr ⟨_, rfl⟩)))
  | @read k i topic body events found =>
    obtain ⟨_, appended, idle | ⟨k', i', topic', body', frame, left, next, read, kept⟩⟩ := layer_read taken
    · exact absurd found (idle.2 k i topic body)
    · exact entered.read (by rw [thread]; exact next) (by rw [thread]; exact appended) read kept with_ (if_pos rfl)
  | run =>
    have decoded : decode ((net.host (net.downstream h)).siteOf 0) (.turn (.publisher (net.thread h) .run)) =
        some (.publisher (net.thread h) .run) := rfl
    obtain ⟨r', moved', rfl⟩ := Option.map_eq_some_iff.mp with_
    obtain ⟨pc, layer, more, appended, stored⟩ := run_stores taken (input_publisher decoded moved').1 entered.pc rfl
      rfl rfl entered.layer
    rw [← after_publisher decoded] at layer stored
    refine ⟨?_, ?_, ?_⟩
    · rw [thread]
      simp only [State.setNode, if_pos]
      exact pc
    · simp only [State.setNode, if_pos]
      exact layer
    · rw [thread]
      simp only [State.setNode, if_pos]
      rw [stored, entered.stored]
      show _ = moved.appended.map _
      rw [appended, List.map_append]
      rfl

variable [Fintype Hop]

theorem step_entered {action : Action Node Hop} (entered : Entered net s h)
    (taken : step net s action = some s') : Entered net s' h := by
  cases step_move taken with
  | @node n event node outside moved =>
    by_cases here : net.downstream h = n
    · subst here
      exact entered.others ⟨rfl, rfl⟩ moved (if_pos rfl) ((outside h).2 rfl)
    · exact entered.still ⟨rfl, rfl⟩ (if_neg here)
  | @alone g action moved stepped _ nothing =>
    by_cases own : h = g
    · subst own
      have idle := layer_idle stepped rfl (.inl nothing)
      refine entered.still ?_ rfl
      simp only [State.setThread, if_pos]
      exact idle
    · have same : (s.setThread g (threadOf moved)).threads h = s.threads h := if_neg own
      exact entered.still (by rw [same]; exact ⟨rfl, rfl⟩) rfl
  | @both g action moved n event node stepped takes also with_ =>
    by_cases own : h = g
    · subst own
      exact entered.sent stepped (event_sent takes also) with_
    · have thread : ((s.setThread g (threadOf moved)).setNode n node).threads h = s.threads h := if_neg own
      by_cases here : net.downstream h = n
      · subst here
        apply entered.others (by rw [thread]; exact ⟨rfl, rfl⟩) with_ (if_pos rfl)
        rcases (event_sent takes also).stores with nothing | ⟨there, mine⟩
        · simp [nothing]
        · rw [mine]
          exact fun same => own (net.distinct h g there (Option.some.inj same).symm)
      · exact entered.still (by rw [thread]; exact ⟨rfl, rfl⟩) (if_neg here)

theorem run_entered (run : Run (step net) Free (initial net) s) : Entered net s h :=
  run.keeps ⟨rfl, rfl, rfl⟩ fun _ _ _ entered _ taken => step_entered entered taken

end Along

/-! ### From repeater to repeater -/

/-- What a thread has appended of a topic stands in its upstream's log, in order. -/
theorem following_within {v : Layer.State} {noted : List (Appended × Nat)} (following : Following v noted)
    (topic : Topic) :
    ∃ positions, Broadcast.Within positions (v.upstream.logs topic).length ∧
      (v.appended.filter fun entry => entry.topic = topic).map Appended.body =
        positions.filterMap fun position => (v.upstream.logs topic)[position]? := by
  let mine := noted.filter fun item => item.1.topic = topic
  have of_topic : ∀ item ∈ mine, item ∈ noted ∧ item.1.topic = topic := fun item member =>
    (List.mem_filter.mp member).imp_right of_decide_eq_true
  have log : ∀ item ∈ mine, (v.upstream.logs topic)[item.2]? = some item.1.body := by
    intro item member
    obtain ⟨old, rfl⟩ := of_topic item member
    exact (following.followed item old).log
  refine ⟨mine.map Prod.snd, ⟨?_, ?_⟩, ?_⟩
  · rw [List.pairwise_map]
    refine (following.ordered.filter _).imp_of_mem fun first second before => before ?_
    exact (of_topic _ first).2.trans (of_topic _ second).2.symm
  · intro position member
    obtain ⟨item, here, rfl⟩ := List.mem_map.mp member
    exact (List.getElem?_eq_some_iff.mp (log item here)).1
  · rw [← following.appended, List.filter_map, List.map_map, List.filterMap_map, ← List.filterMap_eq_map]
    apply List.filterMap_congr
    intro item member
    exact (log item member).symm

/-- Where what a thread stores comes from. -/
theorem publisher_origin {d : Deployment} {r r' : Subscriber.State} {id : Nat} {input : PublisherInput}
    (ledger : Ledger) (moved : PublisherMove d r id input r') :
    (∀ topic, ∀ body ∈ r'.logs topic, body ∈ r.logs topic ∨ r.publishers id = .append topic body) ∧
      ∀ topic body, r'.publishers id = .append topic body → r.publishers id = .append topic body ∨
        input = .relay topic body ∨ (topic, body) ∈ (ledger.note id r r' input).published id := by
  have kept : ∀ topic, ∀ body ∈ r.logs topic, body ∈ r.logs topic ∨ r.publishers id = .append topic body :=
    fun topic body old => .inl old
  cases moved with
  | refuse => exact ⟨kept, fun topic body here => .inl here⟩
  | prepare => exact ⟨kept, fun topic body here => .inl here⟩
  | @create topic message store idle created =>
    refine ⟨kept, fun t body here => .inr (.inr ?_)⟩
    cases (setPublisher_self _ id _).symm.trans here
    have noted : (ledger.note id r ({ r with store }.setPublisher id (.append topic message))
        (.create topic message)).published id = ledger.published id ++ [(topic, message)] := by
      unfold Ledger.note
      dsimp only
      rw [if_pos (setPublisher_self _ id _)]
      exact if_pos rfl
    rw [noted]
    simp
  | relay =>
    refine ⟨kept, fun t body here => .inr (.inl ?_)⟩
    cases (setPublisher_self r id _).symm.trans here
    rfl
  | @append topic message store here stored =>
    refine ⟨fun t body member => ?_, fun t body again => ?_⟩
    · have member : body ∈ appendLog r.logs topic message t := member
      unfold appendLog at member
      split at member
      · rename_i same
        rcases List.mem_append.mp member with old | new
        · exact .inl old
        · rw [List.mem_singleton.mp new, same]
          exact .inr here
      · exact .inl member
    · have next := (setPublisher_self _ id _).symm.trans again
      split at next <;> cases next
  | drop =>
    refine ⟨kept, fun t body here => ?_⟩
    cases (setPublisher_self r id _).symm.trans here
  | submit =>
    refine ⟨kept, fun t body here => ?_⟩
    have next := (setPublisher_self _ id _).symm.trans here
    split at next <;> cases next
  | notify =>
    refine ⟨kept, fun t body here => ?_⟩
    cases (setPublisher_self _ id _).symm.trans here

theorem decode_relay {site : Site} {id : Nat} {input : Input} {topic : Topic} {body : Bytes}
    (decoded : decode site input = some (.publisher id (.relay topic body))) :
    ∃ events, input = .layerFrame id events := by
  cases input with
  | layerFrame i events =>
    simp only [decode] at decoded
    split at decoded
    · obtain ⟨_, _, same⟩ := Option.map_eq_some_iff.mp decoded
      cases same
      exact ⟨events, rfl⟩
    · cases decoded
  | publisherFrame i received =>
    simp only [decode] at decoded
    split at decoded
    · obtain ⟨_, _, same⟩ := Option.map_eq_some_iff.mp decoded
      cases same
    · cases decoded
  | prepare i topic =>
    simp only [decode] at decoded
    split at decoded <;> cases decoded
  | clientFrame received =>
    simp only [decode] at decoded
    split at decoded <;> cases decoded
  | turn action =>
    simp only [decode] at decoded
    split at decoded
    · rename_i inside
      cases decoded
      cases inside
    · cases decoded

theorem recorded_origin {host : Host} {r r' : Repeater.State × Ledger} {event : Event}
    (taken : recorded host r event = some r') :
    (∀ i, r.2.published i <+: r'.2.published i) ∧
      (∀ topic, ∀ body ∈ r'.1.logs topic, body ∈ r.1.logs topic ∨ ∃ id, r.1.publishers id = .append topic body) ∧
      ∀ id topic body, r'.1.publishers id = .append topic body → r.1.publishers id = .append topic body ∨
        (topic, body) ∈ r'.2.published id ∨ ∃ k events, event = .input k (.layerFrame id events) := by
  obtain ⟨node, moved, rfl⟩ := Option.map_eq_some_iff.mp taken
  rcases step_kinds moved with ⟨j, input, i, published, rfl, decoded⟩ | quiet
  · have move := (input_publisher decoded moved).1
    obtain ⟨logs, pcs⟩ := publisher_origin r.2 move
    dsimp only
    rw [after_publisher decoded]
    refine ⟨note_published _ _ _ _ _, fun topic body member => ?_, fun id topic body here => ?_⟩
    · exact (logs topic body member).imp_right fun storing => ⟨i, storing⟩
    · by_cases own : id = i
      · subst own
        rcases pcs topic body here with old | rfl | new
        · exact .inl old
        · obtain ⟨events, rfl⟩ := decode_relay decoded
          exact .inr (.inr ⟨j, events, rfl⟩)
        · exact .inr (.inl new)
      · exact .inl ((move.others r.2 own).1.symm.trans here)
  · dsimp only
    rw [quiet.ledger, quiet.logs, quiet.publishers]
    exact ⟨fun _ => List.prefix_rfl, fun _ _ old => .inl old, fun _ _ _ old => .inl old⟩

section Results
variable [DecidableEq Node] [DecidableEq Hop] [Fintype Hop] {net : Network Node Hop} {s : State Node Hop}

/-- What a layer thread has stored stands in its upstream's log, in order, whoever else stores messages. -/
theorem run_relays (bounded : ∀ n, StringsBounded (net.host n).site.parse)
    (run : Run (step net) Free (initial net) s)
    (h : Hop) (topic : Topic) :
    ∃ positions, Broadcast.Within positions ((s.nodes (net.upstream h)).1.logs topic).length ∧
      (((s.nodes (net.downstream h)).2.storedBy (.layer (net.thread h))).filter fun message =>
        message.1 = topic).map Prod.snd =
        positions.filterMap fun position => ((s.nodes (net.upstream h)).1.logs topic)[position]? := by
  obtain ⟨noted, following⟩ := run_hop bounded run h
  have entered : Entered net s h := run_entered run
  obtain ⟨positions, within, bodies⟩ := following_within following topic
  refine ⟨positions, within, Eq.trans ?_ bodies⟩
  rw [entered.stored, List.filter_map, List.map_map]
  rfl

/-- All that the repeater `n` has of the topic comes from `m`, by one layer thread. -/
def Fed (net : Network Node Hop) (s : State Node Hop) (topic : Topic) (m n : Node) : Prop :=
  ∃ h, net.upstream h = m ∧ net.downstream h = n ∧
    ∀ entry ∈ (s.nodes n).2.stored, entry.2.1 = topic → entry.1 = .layer (net.thread h)

theorem Fed.sublist {topic : Topic} {m n : Node} (bounded : ∀ n, StringsBounded (net.host n).site.parse)
    (run : Run (step net) Free (initial net) s) (fed : Fed net s topic m n) :
    ((s.nodes n).1.logs topic).Sublist ((s.nodes m).1.logs topic) := by
  obtain ⟨h, rfl, rfl, only⟩ := fed
  obtain ⟨positions, within, bodies⟩ := run_relays bounded run h topic
  have log := broadcast_log (run_authored (run_node run (net.downstream h))) topic
  have all : ((broadcast (s.nodes (net.downstream h))).log topic).filter
      (fun entry => entry.1 = .layer (net.thread h)) = (broadcast (s.nodes (net.downstream h))).log topic := by
    rw [List.filter_eq_self]
    intro entry member
    obtain ⟨stored, held, rfl⟩ := List.mem_map.mp member
    obtain ⟨member, here⟩ := List.mem_filter.mp held
    simpa using only stored member (of_decide_eq_true here)
  rw [← log, ← all, broadcast_author, bodies]
  have sublist : List.Sublist _ (((s.nodes (net.upstream h)).1.logs topic).take _) := within.sublist
  rwa [List.take_length] at sublist

/-- What the connections of a repeater carry of a topic is a subsequence of its log. -/
theorem carried_sublist (run : Run (step net) Free (initial net) s) (n : Node) (k : Nat) (topic : Topic) :
    ((((s.nodes n).1.clients k).link.carriedOf topic).map Prod.snd).Sublist ((s.nodes n).1.logs topic) := by
  rw [← broadcast_entries (run_node run n), ← broadcast_log (run_authored (run_node run n))]
  exact (Broadcast.entries_sublist (run_broadcast (run_node run n)) k topic).map Prod.snd

end Results

/-! ### A line of three repeaters -/

/-- The repeater 1 is subscribed to 0, and 2 to 1. -/
def line : Network Nat Bool where
  host _ := sampleHost
    { deployment :=
        { sample false with
          config :=
            { allownTopics := [ascii "T"]
              layerSubscribeTopics := [ascii "T"]
              layerSubscribeAddresses := [ascii "127.0.0.1:9000"] } }
      parse := sampleSite.parse }
  upstream h := if h then 1 else 0
  downstream h := if h then 2 else 1
  thread _ := 1
  distinct g h same _ := by cases g <;> cases h <;> first | rfl | cases same
  serializeTopics _ := requestText

def turn (n : Nat) (action : Subscriber.Action) : Action Nat Bool := .node n (.input 0 (.turn action))

/-- The thread `h` is subscribed to `n`. -/
def subscribes (h : Bool) (n : Nat) : List (Action Nat Bool) :=
  [.hop h .connect, .hop h (.subscribe 100), turn n (.reader .run),
    .hop h (.upstream (.input 0 (.clientFrame (encodeSocketFrame messageOpSubscribe requestText)))),
    turn n (.reader (.order [ascii "T"]))] ++
  List.replicate 7 (turn n (.reader .run))

/-- The thread `h` is sent the answer and a message by `n`, and stores it. -/
def relays (h : Bool) (n : Nat) (body : Bytes) : List (Action Nat Bool) :=
  let frame := encodeSocketFrame (ascii "T") body
  List.replicate 5 (turn n (.writer .interrupted)) ++ [turn n (.writer (.accepted 19))] ++
  List.replicate 12 (turn n (.writer .interrupted)) ++ [turn n (.writer (.accepted frame.length)),
    .hop h (.read (pushBack okResponse [])), .hop h .run, .hop h (.read (pushBack frame [])), .hop h .run]

/-- A publisher of the repeater 0 sends a message. -/
def sends (body : Bytes) : List (Action Nat Bool) :=
  [.node 0 (.input 0 (.publisherFrame 0 (encodeSocketFrame (ascii "T") body))), turn 0 (.publisher 0 .run)]

/-- The publisher's second message goes on to the last repeater, the first one was sent too early. -/
def twoHops : List (Action Nat Bool) :=
  [.node 1 (.input 0 (.prepare 0 (ascii "T"))), .node 2 (.input 0 (.prepare 0 (ascii "T")))] ++
    sends (ascii "l") ++ subscribes false 0 ++ subscribes true 1 ++ sends (ascii "m") ++
    relays false 0 (ascii "m") ++ relays true 1 (ascii "m")

/-! ### Order along a path -/

section Paths
variable [DecidableEq Node] [DecidableEq Hop] [Fintype Hop] {net : Network Node Hop} {s : State Node Hop}

/-- Along any number of repeaters of which each gets the topic only from the one before: what the last one has
and what its connections carry is what the first one has, in its order, with gaps and without repetition. -/
theorem relay_path (net : Network Node Hop) (bounded : ∀ n, StringsBounded (net.host n).site.parse)
    (run : Run (step net) Free (initial net) s) {topic : Topic} {m n : Node}
    (path : Relation.ReflTransGen (Fed net s topic) m n) :
    ((s.nodes n).1.logs topic).Sublist ((s.nodes m).1.logs topic) ∧
      ∀ k, ((((s.nodes n).1.clients k).link.carriedOf topic).map Prod.snd).Sublist ((s.nodes m).1.logs topic) := by
  have logs : ((s.nodes n).1.logs topic).Sublist ((s.nodes m).1.logs topic) := by
    induction path with
    | refl => exact List.Sublist.refl _
    | tail _ fed ih => exact (fed.sublist bounded run).trans ih
  exact ⟨logs, fun k => (carried_sublist run n k topic).trans logs⟩

theorem relay_path_two_hops : ∃ s, Run (step line) Free (initial line) s ∧
    (s.nodes 0).1.logs (ascii "T") = [ascii "l", ascii "m"] ∧ (s.nodes 2).1.logs (ascii "T") = [ascii "m"] ∧
    ((s.nodes 2).1.logs (ascii "T")).Sublist ((s.nodes 0).1.logs (ascii "T")) ∧
      ∀ k, ((((s.nodes 2).1.clients k).link.carriedOf (ascii "T")).map Prod.snd).Sublist
        ((s.nodes 0).1.logs (ascii "T")) := by
  obtain ⟨s, run, passed⟩ := Run.exists_of_replay (step line) Free (initial line) twoHops
    (fun s => decide ((s.nodes 0).1.logs (ascii "T") = [ascii "l", ascii "m"] ∧
      (s.nodes 2).1.logs (ascii "T") = [ascii "m"] ∧
      (s.nodes 1).2.stored = [(.layer 1, ascii "T", ascii "m")] ∧
      (s.nodes 2).2.stored = [(.layer 1, ascii "T", ascii "m")]))
    (by decide +kernel)
  obtain ⟨first, last, one, two⟩ := of_decide_eq_true passed
  have path : Relation.ReflTransGen (Fed line s (ascii "T")) 0 2 := by
    apply Relation.ReflTransGen.head (b := 1)
    · exact ⟨false, rfl, rfl, by rw [one]; simp [line]⟩
    · exact .single ⟨true, rfl, rfl, by rw [two]; simp [line]⟩
  exact ⟨s, run, first, last, relay_path line (fun _ => sampleSite_bounded) run path⟩

/-! ### No message out of nothing -/

/-- A publisher of some repeater has had the message accepted. -/
def Published (s : State Node Hop) (topic : Topic) (body : Bytes) : Prop :=
  ∃ n id, (topic, body) ∈ (s.nodes n).2.published id

def isLayerFrame : Event → Bool
  | .input _ (.layerFrame _ _) => true
  | _ => false

/-- Every layer connection is one of the network's. -/
def Closed (_ : State Node Hop) : Action Node Hop → Prop
  | .node _ event => isLayerFrame event = false
  | .hop _ _ => True

instance (s : State Node Hop) (action : Action Node Hop) : Decidable (Closed s action) :=
  match action with
  | .node _ event => inferInstanceAs (Decidable (isLayerFrame event = false))
  | .hop _ _ => .isTrue trivial

/-- Everything in a log comes from a publisher, and so does everything that a thread other than the network's
layer threads is storing. -/
structure Originated (net : Network Node Hop) (s : State Node Hop) : Prop where
  logs : ∀ n topic, ∀ body ∈ (s.nodes n).1.logs topic, Published s topic body
  pcs : ∀ n id topic body, (∀ h, net.downstream h = n → net.thread h ≠ id) →
    (s.nodes n).1.publishers id = .append topic body → Published s topic body

/-- What a layer thread is storing is in its upstream's log. -/
theorem run_relaying (bounded : ∀ n, StringsBounded (net.host n).site.parse)
    (run : Run (step net) Free (initial net) s) {h : Hop} {topic : Topic} {body : Bytes}
    (here : (s.nodes (net.downstream h)).1.publishers (net.thread h) = .append topic body) :
    body ∈ (s.nodes (net.upstream h)).1.logs topic := by
  obtain ⟨noted, following⟩ := run_hop bounded run h
  have entered : Entered net s h := run_entered run
  obtain ⟨k, frame, at_⟩ := storing_append (entered.pc.symm.trans here)
  have current := following.current k (by rw [show (view net s h).layer = _ from at_]; rfl)
  obtain ⟨_, ⟨sequence, sent⟩, _⟩ := current.appending frame topic body at_
  have member : (sequence, body) ∈ ((s.nodes (net.upstream h)).1.clients k).link.carriedOf topic :=
    List.mem_filterMap.mpr ⟨_, List.mem_of_getElem? sent, by simp [WireFrame.entry?]⟩
  exact List.mem_of_getElem? ((reachable_carried (run_repeater run (net.upstream h)) k topic).2 _ member)

theorem step_originated {action : Action Node Hop} {s' : State Node Hop}
    (bounded : ∀ n, StringsBounded (net.host n).site.parse) (run : Run (step net) Free (initial net) s)
    (originated : Originated net s) (closed : Closed s action) (taken : step net s action = some s') :
    Originated net s' := by
  have kept : ∀ {topic body}, Published s topic body → Published s' topic body := by
    intro topic body ⟨n, id, member⟩
    refine ⟨n, id, ?_⟩
    rcases step_node taken n with same | ⟨event, moved, _⟩
    · rw [same]
      exact member
    · exact ((recorded_origin moved).1 id).subset member
  have storing : ∀ {n id topic body}, (s.nodes n).1.publishers id = .append topic body →
      Published s topic body := by
    intro n id topic body here
    by_cases layer : ∃ h, net.downstream h = n ∧ net.thread h = id
    · obtain ⟨h, rfl, rfl⟩ := layer
      exact originated.logs _ _ _ (run_relaying bounded run here)
    · exact originated.pcs n id topic body (fun h there same => layer ⟨h, there, same⟩) here
  refine ⟨fun n topic body member => ?_, fun n id topic body other here => ?_⟩
  · rcases step_node taken n with same | ⟨event, moved, _⟩
    · rw [same] at member
      exact kept (originated.logs n topic body member)
    · rcases (recorded_origin moved).2.1 topic body member with old | ⟨id, here⟩
      · exact kept (originated.logs n topic body old)
      · exact kept (storing here)
  · rcases step_node taken n with same | ⟨event, moved, by_⟩
    · rw [same] at here
      exact kept (storing here)
    · rcases (recorded_origin moved).2.2 id topic body here with old | new | ⟨k, events, rfl⟩
      · exact kept (storing old)
      · exact ⟨n, id, new⟩
      · rcases by_ with rfl | ⟨h, own, layer, rfl, sent⟩
        · cases closed
        · rcases sent.stores with nothing | ⟨there, mine⟩
          · cases nothing
          · exact absurd (Option.some.inj mine).symm (other h there.symm)

/-- In a closed network, however its layer threads are connected: every message in a log of a repeater, and so
every message that one of its connections carries, has come from a publisher of some repeater, under the same
topic and with the same body. -/
theorem network_origin (net : Network Node Hop) (bounded : ∀ n, StringsBounded (net.host n).site.parse)
    (run : Run (step net) Closed (initial net) s) (n : Node) (topic : Topic) :
    (∀ body ∈ (s.nodes n).1.logs topic, Published s topic body) ∧
      ∀ k, ∀ item ∈ ((s.nodes n).1.clients k).link.carriedOf topic, Published s topic item.2 := by
  have originated : Originated net s := run.keeps_under
    (fun _ before => before.weaken fun _ _ _ => trivial)
    ⟨fun _ _ _ none_ => absurd none_ List.not_mem_nil, fun _ _ _ _ _ here => by cases here⟩
    fun _ _ _ before originated closed taken => step_originated bounded before originated closed taken
  have free : Run (step net) Free (initial net) s := run.weaken fun _ _ _ => trivial
  refine ⟨originated.logs n topic, fun k item member => originated.logs n topic item.2 ?_⟩
  exact List.mem_of_getElem? ((reachable_carried (run_repeater free n) k topic).2 item member)

theorem network_origin_two_hops : ∃ s, Run (step line) Closed (initial line) s ∧
    (s.nodes 2).1.logs (ascii "T") = [ascii "m"] ∧
    (∀ body ∈ (s.nodes 2).1.logs (ascii "T"), Published s (ascii "T") body) ∧
      ∀ k, ∀ item ∈ ((s.nodes 2).1.clients k).link.carriedOf (ascii "T"), Published s (ascii "T") item.2 := by
  obtain ⟨s, run, passed⟩ := Run.exists_of_replay (step line) Closed (initial line) twoHops
    (fun s => decide ((s.nodes 2).1.logs (ascii "T") = [ascii "m"])) (by decide +kernel)
  exact ⟨s, run, of_decide_eq_true passed, network_origin line (fun _ => sampleSite_bounded) run 2 (ascii "T")⟩

end Paths

end MessageRepeater.Layer.Network
