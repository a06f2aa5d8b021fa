import MessageRepeater.Ingress.FrameSizes
import MessageRepeater.Layer.ReplayWork
import MessageRepeater.Repeater.Views

/-!
# The relay is a subsequence

What the layer thread appends of a topic has strictly increasing sequences in the upstream's circle. On
one connection the frames are read in the order in which the upstream put them on the wire; the next
connection starts every topic at the end that its log has by then, behind all that was read before.
-/

namespace MessageRepeater.Layer
open Foundation Combiner Config Connection Subscriber Publisher Repeater Ingress

/-! ### One read -/

theorem encodes_wire {link : Link} {fields : List (Bytes × Bytes)} (framed : Framed link)
    (encodes : List.Forall₂ Encodes link.carried fields) :
    link.history.wire <+: fields.flatMap image := by
  obtain ⟨missing, wire⟩ := framed.carried_wire
  exact ⟨missing, by rw [wire, encodes_images encodes, List.flatMap]⟩

/-- The bytes of the first `n` frames. -/
def bytesOf (link : Link) (n : Nat) : Nat :=
  ((link.carried.take n).map WireFrame.image).flatten.length

theorem readSocketFrame_some {events left : List RecvEvent} {frame : Bytes × Bytes}
    (read : readSocketFrame events = (some frame, left)) :
    readSocketFrameBlocking events maxLayerFrameFieldSize maxLayerFrameFieldSize =
        ({ status := .complete, topic := frame.1, message := frame.2 }, left) ∧
      stream events = image frame ++ stream left := by
  unfold readSocketFrame at read
  split at read
  · rename_i complete
    cases read
    exact ⟨complete, (readSocketFrameBlocking_complete complete).1.stream⟩
  · cases read

/-- A frame that is read from the bytes behind the first `n` frames is the next frame. -/
theorem read_next {link : Link} {n : Nat} {events left : List RecvEvent} {frame : Bytes × Bytes}
    (framed : Framed link)
    (fits : ∀ frame ∈ link.carried, ∃ fields, Encodes frame fields ∧ Fits fields)
    (arrived : stream events <+: link.history.wire.drop (bytesOf link n))
    (read : readSocketFrame events = (some frame, left)) :
    ∃ carried, link.carried[n]? = some carried ∧ Encodes carried frame ∧
      bytesOf link n + ((stream events).length - (stream left).length) = bytesOf link (n + 1) := by
  obtain ⟨fields, encodes, fit⟩ : ∃ fields : List (Bytes × Bytes),
      List.Forall₂ Encodes link.carried fields ∧ ∀ frame ∈ fields, Fits frame := exists_forall₂ fits
  have before : bytesOf link n = ((fields.take n).flatMap image).length := by
    unfold bytesOf
    rw [encodes_images (List.forall₂_take n encodes), List.flatMap]
  have rest : (fields.flatMap image).drop (bytesOf link n) = (fields.drop n).flatMap image := by
    conv_lhs => rw [← List.take_append_drop n fields, List.flatMap_append]
    exact List.drop_left' before.symm
  have arrived' : stream events <+: (fields.drop n).flatMap image :=
    arrived.trans (rest ▸ (encodes_wire framed encodes).drop _)
  obtain ⟨complete, consumed⟩ := readSocketFrame_some read
  obtain ⟨later, next, _⟩ := (read_fitting (fun frame member => fit frame (List.mem_of_mem_drop member))
    arrived' complete).2 rfl
  have onward := List.forall₂_drop n encodes
  rw [next] at onward
  cases carried : link.carried.drop n with
  | nil =>
    rw [carried] at onward
    cases onward
  | cons first others =>
    rw [carried] at onward
    cases onward with
    | cons encoded _ =>
      have at_ : link.carried[n]? = some first := by
        rw [← List.head?_drop, carried, List.head?_cons]
      refine ⟨first, at_, encoded, ?_⟩
      have more : bytesOf link (n + 1) = bytesOf link n + first.image.length := by
        unfold bytesOf
        rw [List.take_add_one, at_]
        simp
      have same : first.image = image frame := encoded.1
      rw [more, same, consumed, List.length_append, Nat.add_sub_cancel]

theorem unreserved_business {link : Link} {carried : WireFrame} {frame : Bytes × Bytes}
    (replied : ∀ bytes ∈ link.history.enqueued, ∃ topic message,
      ControlReply topic message ∧ bytes = encodeSocketFrame topic message)
    (framed : Framed link) (sent : carried ∈ link.carried) (encoded : Encodes carried frame)
    (fits : Fits frame) (unreserved : GlobalContext.isReservedTopic frame.1 = false) :
    ∃ sequence, carried = .business frame.1 sequence frame.2 := by
  cases carried with
  | business topic sequence body =>
    cases encoded.2 topic sequence body rfl
    exact ⟨sequence, rfl⟩
  | control data =>
    obtain ⟨topic, message, reply, rfl⟩ := replied data (framed.control_queued sent)
    obtain ⟨topic_lt, message_lt⟩ := (controlReply_fits reply).lt
    have same : encodeSocketFrame topic message ++ [] = encodeSocketFrame frame.1 frame.2 ++ [] :=
      congrArg (· ++ []) encoded.1
    obtain ⟨rfl, _⟩ := encodeSocketFrame_append_inj topic_lt message_lt fits.lt.1 fits.lt.2 same
    cases unreserved.symm.trans (controlReply_reserved reply)

theorem carried_lt {link : Link} {topic : Topic} {i j q q' : Nat} {body body' : Bytes}
    (ordered : ((link.carriedOf topic).map Prod.fst).Pairwise (· < ·)) (lt : i < j)
    (first : link.carried[i]? = some (.business topic q body))
    (second : link.carried[j]? = some (.business topic q' body')) : q < q' := by
  unfold Link.carriedOf at ordered
  rw [List.pairwise_map, List.pairwise_filterMap, List.pairwise_iff_getElem] at ordered
  obtain ⟨i_lt, first⟩ := List.getElem?_eq_some_iff.mp first
  obtain ⟨j_lt, second⟩ := List.getElem?_eq_some_iff.mp second
  exact ordered i j i_lt j_lt lt (q, body) (by rw [first]; simp [WireFrame.entry?]) (q', body')
    (by rw [second]; simp [WireFrame.entry?])

theorem bytesOf_prefix {link link' : Link} (grown : link.carried <+: link'.carried) {n : Nat}
    (le : n ≤ link.carried.length) : bytesOf link' n = bytesOf link n := by
  obtain ⟨more, eq⟩ := grown
  unfold bytesOf
  rw [← eq, List.take_append_of_le_length le]

/-! ### What is known of the thread -/

/-- The appended message is a frame of the upstream, with this sequence in its topic's log. -/
structure Followed (upstream : Repeater.State) (entry : Appended) (sequence : Nat) : Prop where
  frame : (upstream.clients entry.connection).link.carried[entry.frame]? =
    some (.business entry.topic sequence entry.body)
  log : (upstream.logs entry.topic)[sequence]? = some entry.body

/-- The thread's connection: everything from an earlier one is behind the floor, and everything from
this one is behind the frames read. -/
structure Current (s : State) (noted : List (Appended × Nat)) (k : Nat) : Prop where
  floor : ∃ floor, Floored floor (s.upstream.view k).system ∧
    ∀ item ∈ noted, item.1.connection = k ∨ item.2 < floor item.1.topic
  read : s.frames ≤ (s.upstream.clients k).link.carried.length
  received : s.received = bytesOf (s.upstream.clients k).link s.frames
  behind : ∀ item ∈ noted, item.1.connection = k → item.1.frame < s.frames
  appending : ∀ frame topic body, s.layer = .append k frame topic body → frame < s.frames ∧
    (∃ sequence, (s.upstream.clients k).link.carried[frame]? = some (.business topic sequence body)) ∧
    ∀ item ∈ noted, item.1.connection = k → item.1.frame < frame

/-- `noted` is what the thread has appended, with the sequences. -/
structure Following (s : State) (noted : List (Appended × Nat)) : Prop where
  appended : noted.map Prod.fst = s.appended
  followed : ∀ item ∈ noted, Followed s.upstream item.1 item.2
  ordered : noted.Pairwise fun item later => item.1.topic = later.1.topic → item.2 < later.2
  current : ∀ k, s.layer.connection = some k → Current s noted k

/-! ### Steps of the thread -/

theorem Following.moved {s s' : State} {noted : List (Appended × Nat)} (following : Following s noted)
    (upstream : s'.upstream = s.upstream) (appended : s'.appended = s.appended)
    (current : ∀ k, s'.layer.connection = some k → Current s' noted k) : Following s' noted where
  appended := following.appended.trans appended.symm
  followed := by
    rw [upstream]
    exact following.followed
  ordered := following.ordered
  current := current

/-- On the same connection, without a message to append. -/
theorem Current.onward {s s' : State} {noted : List (Appended × Nat)} {k : Nat}
    (current : Current s noted k) (upstream : s'.upstream = s.upstream) (frames : s'.frames = s.frames)
    (received : s'.received = s.received)
    (nothing : ∀ frame topic body, s'.layer = .append k frame topic body → s'.layer = s.layer) :
    Current s' noted k where
  floor := by
    rw [upstream]
    exact current.floor
  read := by
    rw [upstream, frames]
    exact current.read
  received := by
    rw [upstream, frames, received]
    exact current.received
  behind := by
    rw [frames]
    exact current.behind
  appending frame topic body at_ := by
    rw [upstream, frames]
    exact current.appending frame topic body ((nothing frame topic body at_).symm.trans at_)

theorem Following.grow {host : Host} {s s' : State} {noted : List (Appended × Nat)} {event : Event}
    (following : Following s noted)
    (run : Run (Repeater.step host) Free (Repeater.initial host) s.upstream)
    (taken : Repeater.step host s.upstream event = some s'.upstream) (layer : s'.layer = s.layer)
    (frames : s'.frames = s.frames) (received : s'.received = s.received)
    (appended : s'.appended = s.appended) : Following s' noted := by
  have grows := step_grows run taken
  refine ⟨following.appended.trans appended.symm, fun item member => ?_, following.ordered, ?_⟩
  · obtain ⟨frame, log⟩ := following.followed item member
    exact ⟨entry_kept (grows _).1 frame, entry_kept ((grows item.1.connection).2 _) log⟩
  · intro k at_
    rw [layer] at at_
    have current := following.current k at_
    obtain ⟨floor, floored, below⟩ := current.floor
    refine ⟨⟨floor, step_view_floored run taken floored, below⟩, ?_, ?_, ?_, ?_⟩
    · rw [frames]
      exact current.read.trans (grows k).1.length_le
    · rw [frames, received, bytesOf_prefix (grows k).1 current.read]
      exact current.received
    · rw [frames]
      exact current.behind
    · rw [layer, frames]
      intro frame topic body at_
      obtain ⟨lt, ⟨sequence, sent⟩, earlier⟩ := current.appending frame topic body at_
      exact ⟨lt, ⟨sequence, entry_kept (grows k).1 sent⟩, earlier⟩

theorem upstreamStep_some {chain : Chain} {s s' : State} {event : Event}
    (taken : upstreamStep chain s event = some s') :
    Repeater.step chain.upstream s.upstream event = some s'.upstream ∧ s'.layer = s.layer ∧
      s'.frames = s.frames ∧ s'.received = s.received ∧ s'.appended = s.appended := by
  unfold upstreamStep at taken
  split at taken
  · cases taken
  · rename_i upstream moved
    split at taken
    · split at taken
      · cases taken
        exact ⟨moved, rfl, rfl, rfl, rfl⟩
      · split at taken <;> cases taken
        exact ⟨moved, rfl, rfl, rfl, rfl⟩
    · cases taken
      exact ⟨moved, rfl, rfl, rfl, rfl⟩

/-- A new connection: all that has been appended is in the logs by now. -/
theorem Following.connect {host : Host} {s s' : State} {noted : List (Appended × Nat)}
    (following : Following s noted)
    (run : Run (Repeater.step host) Free (Repeater.initial host) s.upstream)
    (clients : s'.upstream = { s.upstream with opened := s.upstream.opened + 1 })
    (layer : s'.layer = .connected s.upstream.opened) (frames : s'.frames = 0)
    (received : s'.received = 0) (appended : s'.appended = s.appended) : Following s' noted := by
  refine ⟨following.appended.trans appended.symm, fun item member => ?_, following.ordered, ?_⟩
  · obtain ⟨frame, log⟩ := following.followed item member
    rw [clients]
    exact ⟨frame, log⟩
  · intro k at_
    rw [layer] at at_
    obtain rfl : s.upstream.opened = k := Option.some.inj at_
    have closed := reachable_closed run
    have idle := (closed _ (Nat.le_refl _)).1
    refine ⟨⟨fun t => (s.upstream.logs t).length, ?_, fun item member => .inr ?_⟩, ?_, ?_,
      fun item member here => ?_, ?_⟩
    · rw [clients]
      exact closed.floored (Nat.le_refl _)
    · exact (List.getElem?_eq_some_iff.mp (following.followed item member).log).1
    · rw [frames]
      exact Nat.zero_le _
    · rw [frames, received]
      rfl
    · have sent := (following.followed item member).frame
      rw [here, idle] at sent
      cases sent
    · rw [layer]
      nofun

/-- What the upstream's reachable states say of the thread's connection. -/
theorem read_known {host : Host} (bounded : StringsBounded host.site.parse) {upstream : Repeater.State}
    (run : Run (Repeater.step host) Free (Repeater.initial host) upstream) (k : Nat) :
    Framed (upstream.clients k).link ∧
      (∀ frame ∈ (upstream.clients k).link.carried, ∃ fields, Encodes frame fields ∧ Fits fields) ∧
      ∀ bytes ∈ (upstream.clients k).link.history.enqueued, ∃ topic message,
        ControlReply topic message ∧ bytes = encodeSocketFrame topic message :=
  ⟨(reachable_sound (run_threads run k)).framed, @run_fits (host.siteOf k) bounded _ (run_view run k),
    reachable_replied (run_threads run k)⟩

/-- A whole frame has been read, and may be about to be appended. -/
theorem Following.advance {host : Host} {s s' : State}
    {noted : List (Appended × Nat)} {k : Nat} {events left : List RecvEvent} {frame : Bytes × Bytes}
    (following : Following s noted) (bounded : StringsBounded host.site.parse)
    (run : Run (Repeater.step host) Free (Repeater.initial host) s.upstream)
    (here : s.layer.connection = some k) (arrived : stream events <+: s.unread k)
    (read : readSocketFrame events = (some frame, left)) (upstream : s'.upstream = s.upstream)
    (frames : s'.frames = s.frames + 1)
    (received : s'.received = s.received + ((stream events).length - (stream left).length))
    (appended : s'.appended = s.appended) (connection : s'.layer.connection = some k)
    (next : ∀ i topic body, s'.layer = .append k i topic body →
      i = s.frames ∧ (topic, body) = frame ∧ GlobalContext.isReservedTopic topic = false) :
    Following s' noted := by
  obtain ⟨framed, fits, replied⟩ := read_known bounded run k
  have current := following.current k here
  unfold State.unread at arrived
  rw [current.received] at arrived
  obtain ⟨carried, at_, encoded, length⟩ := read_next framed fits arrived read
  refine following.moved upstream appended fun j same => ?_
  obtain rfl : k = j := Option.some.inj (connection.symm.trans same)
  refine ⟨?_, ?_, ?_, fun item member mine => ?_, fun i topic body storing => ?_⟩
  · rw [upstream]
    exact current.floor
  · rw [upstream, frames]
    exact (List.getElem?_eq_some_iff.mp at_).1
  · rw [upstream, frames, received, current.received]
    exact length
  · rw [frames]
    exact Nat.lt_succ_of_lt (current.behind item member mine)
  · obtain ⟨rfl, rfl, unreserved⟩ := next i topic body storing
    obtain ⟨sequence, rfl⟩ := unreserved_business replied framed (List.mem_of_getElem? at_) encoded
      (readSocketFrame_fits (congrArg Prod.fst read)) unreserved
    rw [upstream, frames]
    exact ⟨Nat.lt_succ_self _, ⟨sequence, at_⟩, current.behind⟩

theorem Following.append {host : Host} {s s' : State} {noted : List (Appended × Nat)} {k frame : Nat}
    {topic : Topic} {body : Bytes} (following : Following s noted)
    (run : Run (Repeater.step host) Free (Repeater.initial host) s.upstream)
    (at_ : s.layer = .append k frame topic body) (upstream : s'.upstream = s.upstream)
    (frames : s'.frames = s.frames) (received : s'.received = s.received)
    (appended : s'.appended = s.appended ++ [{ topic, body, connection := k, frame }])
    (connection : s'.layer.connection = some k)
    (past : ∀ i t b, s'.layer ≠ .append k i t b) : ∃ noted', Following s' noted' := by
  have current := following.current k (by rw [at_]; rfl)
  obtain ⟨lt, ⟨sequence, sent⟩, earlier⟩ := current.appending frame topic body at_
  obtain ⟨floor, floored, below⟩ := current.floor
  have delivering := reachable_delivering (run_threads run k)
  obtain ⟨ordered, inside⟩ := carried_ordered delivering floored topic
  have member : (sequence, body) ∈ (s.upstream.clients k).link.carriedOf topic :=
    List.mem_filterMap.mpr ⟨_, List.mem_of_getElem? sent, by simp [WireFrame.entry?]⟩
  obtain ⟨beyond, log⟩ := inside _ member
  refine ⟨noted ++ [({ topic, body, connection := k, frame }, sequence)], ?_, ?_, ?_,
    fun j same => ?_⟩
  · rw [List.map_append, following.appended, appended]
    rfl
  · rw [upstream]
    refine List.forall_mem_append.mpr ⟨following.followed, ?_⟩
    intro item new
    obtain rfl := List.mem_singleton.mp new
    exact ⟨sent, log⟩
  · refine List.pairwise_append.mpr ⟨following.ordered, List.pairwise_singleton _ _, ?_⟩
    intro item old last new same
    obtain rfl := List.mem_singleton.mp new
    dsimp only at same
    subst same
    rcases below item old with here | passed
    · have before := (following.followed item old).frame
      rw [here] at before
      exact carried_lt ordered (earlier item old here) before sent
    · exact Nat.lt_of_lt_of_le passed beyond
  · obtain rfl : k = j := Option.some.inj (connection.symm.trans same)
    refine ⟨⟨floor, by rw [upstream]; exact floored, ?_⟩, ?_, ?_, ?_, ?_⟩
    · refine List.forall_mem_append.mpr ⟨below, ?_⟩
      intro item new
      obtain rfl := List.mem_singleton.mp new
      exact .inl rfl
    · rw [upstream, frames]
      exact current.read
    · rw [upstream, frames, received]
      exact current.received
    · rw [frames]
      refine List.forall_mem_append.mpr ⟨current.behind, ?_⟩
      intro item new _
      obtain rfl := List.mem_singleton.mp new
      exact lt
    · exact fun i t b storing => absurd storing (past i t b)

/-! ### Every step -/

theorem responseStep_following {host : Host} {s : State} {noted : List (Appended × Nat)} {k : Nat}
    {events : List RecvEvent} (bounded : StringsBounded host.site.parse)
    (following : Following s noted)
    (run : Run (Repeater.step host) Free (Repeater.initial host) s.upstream)
    (at_ : s.layer = .response k) (arrived : stream events <+: s.unread k) :
    Following (responseStep s k events) noted := by
  have asleep : Following { s with layer := .sleep } noted := following.moved rfl rfl nofun
  unfold responseStep
  split
  · exact asleep
  · rename_i frame left read
    split
    · exact asleep
    · split
      · exact following.advance bounded run (by rw [at_]; rfl) arrived read rfl rfl rfl rfl rfl nofun
      · exact asleep

theorem readStep_following {chain : Chain} {s : State} {noted : List (Appended × Nat)} {k : Nat}
    {events : List RecvEvent} (bounded : StringsBounded chain.upstream.site.parse)
    (following : Following s noted)
    (run : Run (Repeater.step chain.upstream) Free (Repeater.initial chain.upstream) s.upstream)
    (at_ : s.layer = .read k) (arrived : stream events <+: s.unread k) :
    Following (readStep chain s k events) noted := by
  have here : s.layer.connection = some k := by rw [at_]; rfl
  unfold readStep
  split
  · refine following.moved rfl rfl fun j same => ?_
    obtain rfl : k = j := Option.some.inj same
    exact (following.current k here).onward rfl rfl rfl nofun
  · rename_i frame left read
    cases kept : relayed chain.context frame.1 frame.2 with
    | none =>
      exact following.advance bounded run here arrived read rfl rfl rfl rfl rfl nofun
    | some entry =>
      obtain ⟨rfl, allowed⟩ := relayed_some kept
      refine following.advance bounded run here arrived read rfl rfl rfl rfl rfl ?_
      rintro i topic body ⟨⟩
      exact ⟨rfl, rfl, GlobalContext.isAllownTopic_not_reserved allowed⟩

theorem runStep_following {chain : Chain} {s s' : State} {noted : List (Appended × Nat)}
    (following : Following s noted)
    (run : Run (Repeater.step chain.upstream) Free (Repeater.initial chain.upstream) s.upstream)
    (taken : runStep chain s = some s') : ∃ noted', Following s' noted' := by
  have onward : ∀ {k}, s.layer.connection = some k → s'.upstream = s.upstream →
      s'.frames = s.frames → s'.received = s.received → s'.appended = s.appended →
      s'.layer.connection = some k → (∀ i t b, s'.layer ≠ .append k i t b) → Following s' noted := by
    intro k here upstream frames received appended connection past
    refine following.moved upstream appended fun j same => ?_
    obtain rfl : k = j := Option.some.inj (connection.symm.trans same)
    exact (following.current k here).onward upstream frames received
      fun i t b storing => absurd storing (past i t b)
  unfold runStep at taken
  split at taken
  case h_1 k at_ =>
    cases taken
    refine ⟨noted, onward (by rw [at_]; rfl) rfl rfl rfl rfl ?_ ?_⟩
    · dsimp only
      split <;> rfl
    · dsimp only
      split <;> nofun
  case h_2 k frame topic body at_ =>
    split at taken
    · cases taken
    · cases taken
      exact ⟨noted, onward (by rw [at_]; rfl) rfl rfl rfl rfl rfl nofun⟩
    · cases taken
      refine following.append run at_ rfl rfl rfl rfl ?_ ?_
      · dsimp only
        split <;> rfl
      · dsimp only
        split <;> nofun
  case h_3 k topic at_ =>
    cases taken
    refine ⟨noted, onward (by rw [at_]; rfl) rfl rfl rfl rfl ?_ ?_⟩
    · dsimp only
      split <;> rfl
    · dsimp only
      split <;> nofun
  case h_4 k at_ =>
    cases taken
    exact ⟨noted, onward (by rw [at_]; rfl) rfl rfl rfl rfl rfl nofun⟩
  case h_5 =>
    cases taken
    exact ⟨noted, following.moved rfl rfl nofun⟩
  case h_6 => cases taken

theorem step_following {chain : Chain} {s s' : State} {action : Action} {noted : List (Appended × Nat)}
    (bounded : StringsBounded chain.upstream.site.parse) (following : Following s noted)
    (run : Run (Repeater.step chain.upstream) Free (Repeater.initial chain.upstream) s.upstream)
    (taken : step chain s action = some s') : ∃ noted', Following s' noted' := by
  cases action with
  | upstream event =>
    obtain ⟨moved, layer, frames, received, appended⟩ := upstreamStep_some taken
    exact ⟨noted, following.grow run moved layer frames received appended⟩
  | downstream event =>
    simp only [step] at taken
    split at taken <;> cases taken
    refine ⟨noted, following.moved rfl rfl fun k here => ?_⟩
    exact (following.current k here).onward rfl rfl rfl fun _ _ _ _ => rfl
  | connect =>
    simp only [step] at taken
    split at taken <;> cases taken
    exact ⟨noted, following.connect run rfl rfl rfl rfl rfl⟩
  | setTimeoutFailed =>
    simp only [step] at taken
    split at taken <;> cases taken
    exact ⟨noted, following.moved rfl rfl nofun⟩
  | subscribe written =>
    simp only [step] at taken
    split at taken <;> cases taken
    rename_i k at_
    refine ⟨noted, following.moved rfl rfl fun j here => ?_⟩
    dsimp only at here
    split at here
    · cases here
    · rename_i whole
      obtain rfl : k = j := Option.some.inj here
      refine (following.current k (by rw [at_]; rfl)).onward rfl rfl rfl ?_
      dsimp only
      rw [if_neg whole]
      nofun
  | read events =>
    simp only [step] at taken
    split at taken
    · rename_i at_
      split at taken <;> cases taken
      exact ⟨noted, responseStep_following bounded following run at_ ‹_›⟩
    · rename_i at_
      split at taken <;> cases taken
      exact ⟨noted, readStep_following bounded following run at_ ‹_›⟩
    · cases taken
  | run => exact runStep_following following run taken
  | ping written =>
    simp only [step] at taken
    split at taken <;> cases taken
    refine ⟨noted, following.moved rfl rfl fun k here => ?_⟩
    exact (following.current k here).onward rfl rfl rfl fun _ _ _ _ => rfl

theorem step_upstream {chain : Chain} {s s' : State} {action : Action}
    (taken : step chain s action = some s') : s'.upstream = s.upstream ∨
      ∃ event, Repeater.step chain.upstream s.upstream event = some s'.upstream := by
  cases action with
  | upstream event => exact .inr ⟨event, (upstreamStep_some taken).1⟩
  | connect =>
    simp only [step] at taken
    split at taken <;> cases taken
    exact .inr ⟨.accept, rfl⟩
  | read events =>
    simp only [step] at taken
    split at taken
    · split at taken <;> cases taken
      refine .inl ?_
      unfold responseStep
      split
      · rfl
      · split
        · rfl
        · split <;> rfl
    · split at taken <;> cases taken
      refine .inl ?_
      unfold readStep
      split <;> rfl
    · cases taken
  | run =>
    simp only [step, runStep] at taken
    split at taken
    case h_2 => split at taken <;> cases taken <;> exact .inl rfl
    case h_6 => cases taken
    all_goals
      cases taken
      exact .inl rfl
  | downstream | setTimeoutFailed | subscribe | ping =>
    simp only [step] at taken
    split at taken <;> cases taken
    exact .inl rfl

theorem run_upstream {chain : Chain} {s : State} {ok : State → Action → Prop}
    (run : Run (step chain) ok (initial chain) s) :
    Run (Repeater.step chain.upstream) Free (Repeater.initial chain.upstream) s.upstream :=
  run.simulate fun _ _ _ _ _ taken => step_upstream taken

theorem run_following {chain : Chain} (bounded : StringsBounded chain.upstream.site.parse) {s : State}
    (run : Run (step chain) Free (initial chain) s) : ∃ noted, Following s noted := by
  induction run with
  | refl => exact ⟨[], rfl, nofun, .nil, nofun⟩
  | tail before action _ taken ih =>
    obtain ⟨noted, following⟩ := ih
    exact step_following bounded following (run_upstream before) taken

/-- In every run against one upstream, whatever its writer and its policy, and however often the thread
is cut off and connects again: what it has appended of a topic stands in the upstream's log of the topic
at strictly increasing sequences, each being that of the frame that was read. -/
theorem relay_subsequence (chain : Chain) (bounded : StringsBounded chain.upstream.site.parse)
    {s : State} (run : Run (step chain) Free (initial chain) s) (topic : Topic) :
    (∃ sequences : List Nat, sequences.Pairwise (· < ·) ∧
      List.Forall₂ (Followed s.upstream) (s.appended.filter (·.topic = topic)) sequences) ∧
    ((s.appended.filter (·.topic = topic)).map Appended.body).Sublist (s.upstream.logs topic) := by
  obtain ⟨noted, following⟩ := run_following bounded run
  let mine := noted.filter (·.1.topic = topic)
  have of_topic : ∀ item ∈ mine, item ∈ noted ∧ item.1.topic = topic := fun item member =>
    (List.mem_filter.mp member).imp_right of_decide_eq_true
  have increasing : (mine.map Prod.snd).Pairwise (· < ·) := by
    rw [List.pairwise_map]
    refine (following.ordered.filter _).imp_of_mem fun first second before => before ?_
    exact (of_topic _ first).2.trans (of_topic _ second).2.symm
  have entries : s.appended.filter (·.topic = topic) = mine.map Prod.fst := by
    rw [← following.appended, List.filter_map]
    rfl
  rw [entries]
  refine ⟨⟨mine.map Prod.snd, increasing, ?_⟩, ?_⟩
  · rw [List.forall₂_map_left_iff, List.forall₂_map_right_iff, List.forall₂_same]
    exact fun item member => following.followed item (of_topic item member).1
  · refine sublist_of_increasing increasing (fun p _ => Nat.zero_le p) ?_
    rw [List.forall₂_map_left_iff, List.forall₂_map_left_iff, List.forall₂_map_right_iff,
      List.forall₂_same]
    intro item member
    obtain ⟨old, rfl⟩ := of_topic item member
    exact (following.followed item old).log

/-! ### A thread that is cut off once -/

/-- A host whose connections all have keys of different lengths. -/
def sampleHost (site : Site) : Host where
  site
  keys k := List.replicate k 0
  fresh j k same := by simpa using congrArg List.length same

/-- A repeater that is subscribed to `T` of another one. -/
def sampleChain : Chain where
  upstream := sampleHost sampleSite
  downstream := sampleHost
    { deployment :=
        { sample false with
          config :=
            { allownTopics := [ascii "T"]
              layerSubscribeTopics := [ascii "T"]
              layerSubscribeAddresses := [ascii "127.0.0.1:9000"] } }
      parse _ := .null }
  serializeTopics _ := requestText

/-- The upstream stores a message. -/
def publish (body : Bytes) : List Action :=
  [.upstream (.input 0 (.publisherFrame 0 (encodeSocketFrame (ascii "T") body))),
    .upstream (.input 0 (.turn (.publisher 0 .run)))]

/-- Connection `k` is made and answered, and one message goes over it. -/
def oneMessage (k : Nat) (body : Bytes) : List Action :=
  let turn (action : Subscriber.Action) : Action := .upstream (.input k (.turn action))
  let frame := encodeSocketFrame (ascii "T") body
  [.connect, .subscribe 100, turn (.reader .run),
    .upstream (.input k (.clientFrame (encodeSocketFrame messageOpSubscribe requestText))),
    turn (.reader (.order [ascii "T"]))] ++
  List.replicate 7 (turn (.reader .run)) ++
  publish body ++
  List.replicate 5 (turn (.writer .interrupted)) ++ [turn (.writer (.accepted 19))] ++
  List.replicate 12 (turn (.writer .interrupted)) ++
  [turn (.writer (.accepted frame.length)), .read (pushBack okResponse []), .run,
    .read (pushBack frame []), .run]

/-- The connection is lost after the first message. -/
def twoConnections : List Action :=
  [.downstream (.input 0 (.prepare 0 (ascii "T")))] ++ publish (ascii "l") ++ oneMessage 0 (ascii "m") ++
    [.run, .read [], .run] ++ oneMessage 1 (ascii "n")


theorem relay_subsequence_two_connections : ∃ s, Run (step sampleChain) Free (initial sampleChain) s ∧
    s.appended.map Appended.body = [ascii "m", ascii "n"] ∧
    s.appended.map Appended.connection = [0, 1] ∧
    ∃ sequences : List Nat, sequences.Pairwise (· < ·) ∧
      List.Forall₂ (Followed s.upstream) (s.appended.filter (·.topic = ascii "T")) sequences := by
  obtain ⟨s, run, passed⟩ := Run.exists_of_replay (step sampleChain) Free (initial sampleChain)
    twoConnections
    (fun s => decide (s.appended.map Appended.body = [ascii "m", ascii "n"] ∧
      s.appended.map Appended.connection = [0, 1]))
    (by decide +kernel)
  obtain ⟨bodies, connections⟩ := of_decide_eq_true passed
  exact ⟨s, run, bodies, connections,
    (relay_subsequence sampleChain sampleSite_bounded run (ascii "T")).1⟩

end MessageRepeater.Layer
