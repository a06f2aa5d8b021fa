import MessageRepeater.Layer.ConnectorThreads

/-!
# The connector's descriptors, frames and turns

A worker closes its socket once, when nobody uses it any more; what it and its ping thread send are whole
frames up to a last one that may be cut; and once the flag is set the turn ends.
-/

namespace MessageRepeater.Layer.Connector
open Foundation Combiner Connection Subscriber

/-! ### What has been sent -/

/-- The request, `n` pings and a part of another one. -/
def talk (context : GlobalContext) (n offset : Nat) : Bytes :=
  subscribeRequest context ++ (List.replicate n pingFrame).flatten ++ pingFrame.take offset

/-- A part of the request and pings. -/
def Framed (context : GlobalContext) (wire : Bytes) : Prop :=
  ∃ n, wire <+: subscribeRequest context ++ (List.replicate n pingFrame).flatten

theorem pings_succ (n : Nat) :
    (List.replicate (n + 1) pingFrame).flatten = (List.replicate n pingFrame).flatten ++ pingFrame := by
  rw [List.replicate_succ', List.flatten_append, List.flatten_singleton]

theorem talk_whole (context : GlobalContext) (n : Nat) :
    talk context n pingFrame.length = talk context (n + 1) 0 := by
  simp only [talk, pings_succ, List.take_length, List.take_zero, List.append_nil, List.append_assoc]

theorem talk_more (context : GlobalContext) (n offset count : Nat) :
    talk context n offset ++ (pingFrame.drop offset).take count = talk context n (offset + count) := by
  simp only [talk, List.append_assoc, List.take_add]

theorem framed_talk (context : GlobalContext) (n offset : Nat) : Framed context (talk context n offset) := by
  refine ⟨n + 1, ?_⟩
  rw [pings_succ, ← List.append_assoc]
  exact (List.prefix_append_right_inj _).mpr (List.take_prefix _ _)

theorem framed_request {context : GlobalContext} {wire : Bytes} (part : wire <+: subscribeRequest context) :
    Framed context wire := by
  refine ⟨0, part.trans ?_⟩
  simp

/-! ### One turn of a worker -/

/-- How far the worker's turn is. -/
inductive Phase where
  | alone
  | reading
  | leaving
  | joined

def WorkerPc.phase : WorkerPc → Phase
  | .loopTest | .read | .relay _ _ | .setFlag => .reading
  | .shutdown | .join => .leaving
  | .close => .joined
  | _ => .alone

/-- The flag while the worker is in its reading loop: only the ping thread sets it, and shuts the socket down
before it exits. -/
def PingPc.Flags (ping : PingPc) (flag : Option Bool) (shut : Bool) : Prop :=
  match ping with
  | .absent => False
  | .exited => flag = some true ∧ shut = true
  | .shutdown => flag = some true
  | _ => flag = some false

/-- The flag and the ping thread in each phase. -/
def Paired (worker : Worker) (shut : Bool) : Prop :=
  match worker.pc.phase with
  | .alone => worker.ping = .absent ∧ worker.socketDisconnected = none
  | .reading => worker.pingFd = worker.clientFd ∧ worker.ping.Flags worker.socketDisconnected shut
  | .leaving => worker.pingFd = worker.clientFd ∧ worker.ping ≠ .absent ∧ worker.socketDisconnected = some true
  | .joined => worker.ping = .absent ∧ worker.socketDisconnected = some true

/-- What has been sent when the ping thread is here. -/
def PingPc.Said (context : GlobalContext) (wire : Bytes) : PingPc → Prop
  | .nap _ | .flagTest _ => ∃ n, wire = talk context n 0
  | .send offset => offset < pingFrame.length ∧ ∃ n, wire = talk context n offset
  | _ => Framed context wire

/-- What has been sent on the worker's socket. -/
def Sent (context : GlobalContext) (worker : Worker) (wire : Bytes) : Prop :=
  match worker.pc with
  | .sleep => True
  | .connect | .setReadTimeout | .setWriteTimeout => wire = []
  | .subscribe offset => offset < (subscribeRequest context).length ∧ wire = (subscribeRequest context).take offset
  | .response | .startPing => wire = talk context 0 0
  | .giveUp | .close => Framed context wire
  | _ => worker.ping.Said context wire

theorem PingPc.Said.framed {context : GlobalContext} {ping : PingPc} {wire : Bytes}
    (said : ping.Said context wire) : Framed context wire := by
  unfold PingPc.Said at said
  split at said
  · obtain ⟨n, rfl⟩ := said
    exact framed_talk context n 0
  · obtain ⟨n, rfl⟩ := said
    exact framed_talk context n 0
  · obtain ⟨_, n, rfl⟩ := said
    exact framed_talk context n _
  · exact said

theorem Paired.mono {worker : Worker} {shut shut' : Bool} (paired : Paired worker shut)
    (stays : shut = true → shut' = true) : Paired worker shut' := by
  cases phase : worker.pc.phase with
  | reading =>
    simp only [Paired, phase] at paired ⊢
    refine ⟨paired.1, ?_⟩
    have flags := paired.2
    cases ping : worker.ping with
    | exited =>
      rw [ping] at flags
      exact ⟨flags.1, stays flags.2⟩
    | _ =>
      rw [ping] at flags
      exact flags
  | _ =>
    simp only [Paired, phase] at paired ⊢
    exact paired

theorem Sent.framed {context : GlobalContext} {worker : Worker} {wire : Bytes} (sent : Sent context worker wire)
    (awake : worker.pc ≠ .sleep) : Framed context wire := by
  have nothing : Framed context [] := framed_request List.nil_prefix
  unfold Sent at sent
  split at sent
  · rename_i asleep
    exact absurd asleep awake
  · exact sent ▸ nothing
  · exact sent ▸ nothing
  · exact sent ▸ nothing
  · exact framed_request (sent.2 ▸ List.take_prefix _ _)
  · exact sent ▸ framed_talk context 0 0
  · exact sent ▸ framed_talk context 0 0
  · exact sent
  · exact sent
  · exact sent.framed

/-- What holds of a worker: while it is awake its number stands for its socket, and nothing else in the table
is its own. -/
structure Sound (context : GlobalContext) (s : State) (w : Nat) : Prop where
  held : (s.workers w).pc ≠ .sleep →
    s.descriptors (s.workers w).clientFd = some (s.workers w).socket ∧ s.owner (s.workers w).socket = some w
  only : ∀ fd socket, s.descriptors fd = some socket → s.owner socket = some w →
    (s.workers w).pc ≠ .sleep ∧ fd = (s.workers w).clientFd ∧ socket = (s.workers w).socket
  paired : Paired (s.workers w) (s.shutDown (s.workers w).socket)
  sent : Sent context (s.workers w) (s.wire (s.workers w).socket)
  framed : ∀ socket, s.owner socket = some w → Framed context (s.wire socket)

structure Inv (context : GlobalContext) (s : State) : Prop where
  unmade : ∀ socket, s.made ≤ socket → s.owner socket = none ∧ s.wire socket = []
  described : ∀ fd socket, s.descriptors fd = some socket → socket < s.made
  sound : ∀ w, Sound context s w

theorem initial_inv (context : GlobalContext) : Inv context initial where
  unmade _ _ := ⟨rfl, rfl⟩
  described _ _ found := by cases found
  sound w :=
    { held := fun awake => absurd rfl awake
      only := fun _ _ found _ => by cases found
      paired := ⟨rfl, rfl⟩
      sent := trivial
      framed := fun _ found => by cases found }

/-! ### What the others' steps leave to a worker -/

structure Apart (s s' : State) (w : Nat) : Prop where
  worker : s'.workers w = s.workers w
  kept : ∀ fd socket, s.descriptors fd = some socket → s.owner socket = some w → s'.descriptors fd = some socket
  only : ∀ fd socket, s'.descriptors fd = some socket → s'.owner socket = some w →
    s.descriptors fd = some socket ∧ s.owner socket = some w
  owner : ∀ socket, s'.owner socket = some w ↔ s.owner socket = some w
  wire : ∀ socket, s.owner socket = some w → s'.wire socket = s.wire socket
  shutDown : ∀ socket, s.shutDown socket = true → s'.shutDown socket = true

theorem Sound.apart {context : GlobalContext} {s s' : State} {w : Nat} (sound : Sound context s w)
    (apart : Apart s s' w) : Sound context s' w := by
  have worker := apart.worker
  constructor
  · intro awake
    rw [worker] at awake ⊢
    obtain ⟨held, own⟩ := sound.held awake
    exact ⟨apart.kept _ _ held own, (apart.owner _).mpr own⟩
  · intro fd socket found own
    rw [worker]
    obtain ⟨found, own⟩ := apart.only fd socket found own
    exact sound.only fd socket found own
  · rw [worker]
    exact sound.paired.mono (apart.shutDown _)
  · rw [worker]
    by_cases asleep : (s.workers w).pc = .sleep
    · simp only [Sent, asleep]
    · rw [apart.wire _ (sound.held asleep).2]
      exact sound.sent
  · intro socket own
    have own := (apart.owner socket).mp own
    rw [apart.wire socket own]
    exact sound.framed socket own

section Others
variable {s : State} {w : Nat}

theorem Apart.refl : Apart s s w :=
  ⟨rfl, fun _ _ found _ => found, fun _ _ found own => ⟨found, own⟩, fun _ => Iff.rfl, fun _ _ => rfl,
    fun _ shut => shut⟩

theorem Apart.set {t : State} (apart : Apart s t w) {v : Nat} (other : w ≠ v) (worker : Worker) :
    Apart s (t.set v worker) w where
  worker := (if_neg other).trans apart.worker
  kept := apart.kept
  only := apart.only
  owner := apart.owner
  wire := apart.wire
  shutDown := apart.shutDown

theorem apart_make {context : GlobalContext} (inv : Inv context s) {fd : Nat} (free : s.descriptors fd = none)
    {owner : Option Nat} (other : owner ≠ some w) : Apart s (s.make fd owner) w := by
  have own : ∀ socket, (s.make fd owner).owner socket = some w ↔ s.owner socket = some w := by
    intro socket
    simp only [State.make]
    split
    · rename_i same
      rw [same, (inv.unmade s.made (Nat.le_refl _)).1]
      exact ⟨fun mine => absurd mine other, fun mine => by cases mine⟩
    · rfl
  refine ⟨rfl, fun n socket found _ => ?_, fun n socket found mine => ?_, own, fun _ _ => rfl, fun _ shut => shut⟩
  · simp only [State.make]
    split
    · rename_i same
      rw [same, free] at found
      cases found
    · exact found
  · refine ⟨?_, (own socket).mp mine⟩
    simp only [State.make] at found
    split at found
    · obtain rfl := Option.some.inj found
      exact absurd ((own s.made).mp mine) (by simp [(inv.unmade s.made (Nat.le_refl _)).1])
    · exact found

theorem apart_close {fd : Nat} (other : (s.descriptors fd).bind s.owner ≠ some w) : Apart s (s.close fd) w := by
  refine ⟨rfl, fun n socket found own => ?_, fun n socket found own => ⟨?_, own⟩, fun _ => Iff.rfl, fun _ _ => rfl,
    fun _ shut => shut⟩
  · simp only [State.close]
    split
    · rename_i same
      rw [same] at found
      exact absurd (by rw [found]; exact own) other
    · exact found
  · simp only [State.close] at found
    split at found
    · cases found
    · exact found

theorem apart_accept {fd : Nat} (other : (s.descriptors fd).bind s.owner ≠ some w) (bytes : Bytes) :
    Apart s (s.accept fd bytes) w := by
  refine ⟨rfl, fun _ _ found _ => found, fun _ _ found own => ⟨found, own⟩, fun _ => Iff.rfl, fun socket own => ?_,
    fun _ shut => shut⟩
  simp only [State.accept]
  split
  · rename_i found
    exact absurd (by rw [found]; exact own) other
  · rfl

theorem apart_shut (fd : Nat) : Apart s (s.shut fd) w := by
  refine ⟨rfl, fun _ _ found _ => found, fun _ _ found own => ⟨found, own⟩, fun _ => Iff.rfl, fun _ _ => rfl,
    fun socket shut => ?_⟩
  simp [State.shut, shut]

end Others

/-- What a step of worker `w` or of its ping thread does to what the threads share. -/
inductive Effect (s : State) (w : Nat) : State → Prop where
  | nothing : Effect s w s
  | make {fd} (free : s.descriptors fd = none) : Effect s w (s.make fd (some w))
  | close {fd} (mine : (s.descriptors fd).bind s.owner = some w) : Effect s w (s.close fd)
  | accept {fd} (mine : (s.descriptors fd).bind s.owner = some w) (bytes : Bytes) : Effect s w (s.accept fd bytes)
  | shut (fd : Nat) : Effect s w (s.shut fd)

theorem Effect.apart {context : GlobalContext} {s t : State} {w v : Nat} (inv : Inv context s)
    (effect : Effect s w t) (other : v ≠ w) : Apart s t v := by
  have apart : some w ≠ some v := fun same => other (Option.some.inj same).symm
  cases effect with
  | nothing => exact .refl
  | make free => exact apart_make inv free apart
  | close mine =>
    apply apart_close
    rw [mine]
    exact apart
  | accept mine bytes =>
    refine apart_accept ?_ bytes
    rw [mine]
    exact apart
  | shut fd => exact apart_shut fd

theorem make_unmade {context : GlobalContext} {s : State} (inv : Inv context s) (fd : Nat) (owner : Option Nat) :
    (∀ socket, (s.make fd owner).made ≤ socket →
      (s.make fd owner).owner socket = none ∧ (s.make fd owner).wire socket = []) ∧
    ∀ n socket, (s.make fd owner).descriptors n = some socket → socket < (s.make fd owner).made := by
  refine ⟨fun socket later => ?_, fun n socket found => ?_⟩
  · have beyond : s.made < socket := later
    refine ⟨?_, (inv.unmade socket (Nat.le_of_lt beyond)).2⟩
    simp only [State.make]
    rw [if_neg (by omega)]
    exact (inv.unmade socket (Nat.le_of_lt beyond)).1
  · simp only [State.make] at found ⊢
    split at found
    · obtain rfl := Option.some.inj found
      exact Nat.lt_succ_self _
    · exact Nat.lt_succ_of_lt (inv.described n socket found)

theorem close_described {context : GlobalContext} {s : State} (inv : Inv context s) (fd n socket : Nat)
    (found : (s.close fd).descriptors n = some socket) : socket < s.made := by
  simp only [State.close] at found
  split at found
  · cases found
  · exact inv.described n socket found

theorem accept_unmade {context : GlobalContext} {s : State} (inv : Inv context s) (fd : Nat) (bytes : Bytes)
    (socket : Nat) (later : s.made ≤ socket) :
    (s.accept fd bytes).owner socket = none ∧ (s.accept fd bytes).wire socket = [] := by
  refine ⟨(inv.unmade socket later).1, ?_⟩
  show (if s.descriptors fd = some socket then _ else _) = _
  rw [if_neg fun found => absurd (inv.described _ socket found) (Nat.not_lt.mpr later)]
  exact (inv.unmade socket later).2

theorem Inv.after {context : GlobalContext} {s t : State} {w : Nat} (inv : Inv context s) (effect : Effect s w t)
    {worker : Worker} (own : Sound context (t.set w worker) w) : Inv context (t.set w worker) := by
  have sound : ∀ v, Sound context (t.set w worker) v := by
    intro v
    by_cases same : v = w
    · exact same ▸ own
    · exact (inv.sound v).apart ((effect.apart inv same).set same worker)
  cases effect with
  | nothing => exact ⟨inv.unmade, inv.described, sound⟩
  | make free =>
    obtain ⟨unmade, described⟩ := make_unmade inv _ (some w)
    exact ⟨unmade, described, sound⟩
  | close mine => exact ⟨inv.unmade, close_described inv _, sound⟩
  | accept mine bytes => exact ⟨accept_unmade inv _ bytes, inv.described, sound⟩
  | shut fd => exact ⟨inv.unmade, inv.described, sound⟩

/-! ### What its own steps leave to a worker -/

@[simp] theorem set_workers (s : State) (w : Nat) (worker : Worker) :
    (s.set w worker).workers w = worker := if_pos rfl

@[simp] theorem set_set (s : State) (w : Nat) (worker worker' : Worker) :
    (s.set w worker).set w worker' = s.set w worker' := by
  simp only [State.set, State.mk.injEq, and_true]
  funext v
  split <;> rfl

section Own
variable {context : GlobalContext} {s t : State} {w : Nat} {worker : Worker}

theorem Sound.moved (sound : Sound context s w) (worker : Worker) (awake : (s.workers w).pc ≠ .sleep)
    (awake' : worker.pc ≠ .sleep)
    (fd : worker.clientFd = (s.workers w).clientFd) (socket : worker.socket = (s.workers w).socket)
    (descriptors : t.descriptors = s.descriptors) (owner : t.owner = s.owner)
    (others : ∀ other, other ≠ (s.workers w).socket → t.wire other = s.wire other)
    (paired : Paired worker (t.shutDown (s.workers w).socket))
    (sent : Sent context worker (t.wire (s.workers w).socket)) : Sound context (t.set w worker) w := by
  obtain ⟨held, own⟩ := sound.held awake
  constructor
  · intro _
    rw [set_workers, fd, socket]
    exact ⟨(congrFun descriptors _).trans held, (congrFun owner _).trans own⟩
  · intro n other found mine
    rw [set_workers, fd, socket]
    have found : s.descriptors n = some other := (congrFun descriptors n).symm.trans found
    have mine : s.owner other = some w := (congrFun owner other).symm.trans mine
    exact ⟨awake', (sound.only n other found mine).2⟩
  · rw [set_workers, socket]
    exact paired
  · rw [set_workers, socket]
    exact sent
  · intro other mine
    have mine : s.owner other = some w := (congrFun owner other).symm.trans mine
    by_cases same : other = (s.workers w).socket
    · exact same ▸ sent.framed awake'
    · exact (others other same).symm ▸ sound.framed other mine

/-- A step that neither opens, closes nor sends. -/
theorem Sound.quiet (sound : Sound context s w) (awake : (s.workers w).pc ≠ .sleep) (awake' : worker.pc ≠ .sleep)
    (fd : worker.clientFd = (s.workers w).clientFd) (socket : worker.socket = (s.workers w).socket)
    (paired : Paired worker (s.shutDown (s.workers w).socket))
    (sent : Sent context worker (s.wire (s.workers w).socket)) : Sound context (s.set w worker) w :=
  sound.moved worker awake awake' fd socket rfl rfl (fun _ _ => rfl) paired sent

theorem Sound.mine (sound : Sound context s w) (awake : (s.workers w).pc ≠ .sleep) :
    (s.descriptors (s.workers w).clientFd).bind s.owner = some w := by
  obtain ⟨held, own⟩ := sound.held awake
  rw [held]
  exact own

theorem accept_own {fd socket : Nat} (held : s.descriptors fd = some socket) (bytes : Bytes) :
    (s.accept fd bytes).wire socket = s.wire socket ++ bytes ∧
      ∀ other, other ≠ socket → (s.accept fd bytes).wire other = s.wire other := by
  refine ⟨if_pos held, fun other apart => if_neg fun found => apart ?_⟩
  exact Option.some.inj (found.symm.trans held)

/-- Closing its socket leaves a worker with nothing in the table. -/
theorem Sound.closed (sound : Sound context s w) (asleep : worker.pc = .sleep)
    (paired : Paired worker (s.shutDown worker.socket)) :
    Sound context ((s.close (s.workers w).clientFd).set w worker) w := by
  constructor
  · intro awake'
    rw [set_workers] at awake'
    exact absurd asleep awake'
  · intro n other found mine
    simp only [State.set, State.close] at found
    split at found
    · cases found
    · rename_i apart
      exact absurd (sound.only n other found mine).2.1 apart
  · rw [set_workers]
    exact paired
  · rw [set_workers, Sent, asleep]
    trivial
  · exact sound.framed

theorem sendTurn_cases {fd offset : Nat} {frame : Bytes} {outcome : CallOutcome} {turn : SendTurn}
    (taken : sendTurn s fd frame offset outcome = some (t, turn)) :
    (∃ count, 0 < count ∧ offset + count ≤ frame.length ∧ t = s.accept fd ((frame.drop offset).take count) ∧
      turn = if offset + count < frame.length then .goesOn (offset + count) else .sent) ∨
    (t = s ∧ ((outcome = .interrupted ∧ turn = .goesOn offset) ∨ turn = .failed)) := by
  unfold sendTurn at taken
  split at taken
  · rename_i count
    split at taken
    · rename_i fits
      cases taken
      exact .inl ⟨count, fits.1, fits.2.1, rfl, rfl⟩
    · cases taken
  · cases taken
    exact .inr ⟨rfl, .inl ⟨rfl, rfl⟩⟩
  · cases taken
    exact .inr ⟨rfl, .inr rfl⟩

/-- A turn of the request or of a ping: what is on the wire behind it. -/
theorem Sound.sends (sound : Sound context s w) (worker : Worker) (awake : (s.workers w).pc ≠ .sleep)
    (awake' : worker.pc ≠ .sleep)
    (fd : worker.clientFd = (s.workers w).clientFd) (socket : worker.socket = (s.workers w).socket)
    (bytes : Bytes)
    (paired : Paired worker (s.shutDown (s.workers w).socket))
    (sent : Sent context worker (s.wire (s.workers w).socket ++ bytes)) :
    Sound context ((s.accept (s.workers w).clientFd bytes).set w worker) w := by
  obtain ⟨mine, others⟩ := accept_own (sound.held awake).1 bytes
  exact sound.moved worker awake awake' fd socket rfl rfl others paired (mine.symm ▸ sent)

end Own

/-! ### Every step -/

section Steps
variable {context : GlobalContext} {s s' : State} {w : Nat}

theorem subscribeRequest_pos (context : GlobalContext) : 0 < (subscribeRequest context).length := by
  rw [subscribeRequest, encodeSocketFrame_length]
  omega

theorem pingFrame_pos : 0 < pingFrame.length := by decide

/-- A step of the worker that leaves its phase. -/
theorem Inv.goWorker (inv : Inv context s) (awake : (s.workers w).pc ≠ .sleep) {pc : WorkerPc}
    (phase : pc.phase = (s.workers w).pc.phase) (awake' : pc ≠ .sleep)
    (sent : Sent context { s.workers w with pc } (s.wire (s.workers w).socket)) :
    Inv context (s.goWorker w pc) := by
  refine inv.after .nothing ((inv.sound w).quiet awake awake' rfl rfl ?_ sent)
  have paired := (inv.sound w).paired
  simp only [Paired, phase] at paired ⊢
  exact paired

theorem request_sent (inv : Inv context s) {offset : Nat} (pc : (s.workers w).pc = .subscribe offset)
    {t : State} {turn : SendTurn} {outcome : CallOutcome}
    (taken : sendTurn s (s.workers w).clientFd (subscribeRequest context) offset outcome = some (t, turn)) :
    Inv context (t.afterRequest w turn) := by
  have sound := inv.sound w
  have awake : (s.workers w).pc ≠ .sleep := by simp [pc]
  have paired := sound.paired
  obtain ⟨short, sent⟩ : offset < (subscribeRequest context).length ∧
      s.wire (s.workers w).socket = (subscribeRequest context).take offset := by
    have sent := sound.sent
    simp only [Sent, pc] at sent
    exact sent
  simp only [Paired, pc, WorkerPc.phase] at paired
  rcases sendTurn_cases taken with ⟨count, pos, fits, rfl, rfl⟩ | ⟨rfl, ⟨_, rfl⟩ | rfl⟩
  · have more : s.wire (s.workers w).socket ++ ((subscribeRequest context).drop offset).take count =
        (subscribeRequest context).take (offset + count) := by
      rw [sent, List.take_add]
    have effect := Effect.accept (sound.mine awake) (((subscribeRequest context).drop offset).take count)
    by_cases onward : offset + count < (subscribeRequest context).length
    · rw [if_pos onward]
      exact inv.after effect (sound.sends { s.workers w with pc := .subscribe (offset + count) } awake (by simp)
        rfl rfl _ paired ⟨onward, more⟩)
    · rw [if_neg onward]
      refine inv.after effect (sound.sends { s.workers w with pc := .response } awake (by simp) rfl rfl _ paired ?_)
      show _ = talk context 0 0
      rw [more, List.take_of_length_le (by omega)]
      simp [talk]
  · exact inv.goWorker awake (by simp [pc, WorkerPc.phase]) (by simp) ⟨short, sent⟩
  · exact inv.goWorker awake (by simp [pc, WorkerPc.phase]) (by simp)
      (framed_request (sent ▸ List.take_prefix _ _))

theorem workerStep_inv {outcome : CallOutcome} (inv : Inv context s)
    (taken : workerStep context s w outcome = some s') : Inv context s' := by
  have sound := inv.sound w
  have paired := sound.paired
  have sent := sound.sent
  unfold workerStep at taken
  dsimp only at taken
  split at taken
  case h_1 => split at taken <;> cases taken; exact inv
  case h_2 | h_3 =>
    rename_i pc
    simp only [Sent, pc] at sent
    cases taken
    split
    · exact inv.goWorker (by simp [pc]) (by simp [pc, WorkerPc.phase]) (by simp)
        (framed_request (sent ▸ List.nil_prefix))
    · exact inv.goWorker (by simp [pc]) (by simp [pc, WorkerPc.phase]) (by simp) sent
  case h_4 pc =>
    simp only [Sent, pc] at sent
    cases taken
    split
    · exact inv.goWorker (by simp [pc]) (by simp [pc, WorkerPc.phase]) (by simp)
        (framed_request (sent ▸ List.nil_prefix))
    · exact inv.goWorker (by simp [pc]) (by simp [pc, WorkerPc.phase]) (by simp)
        ⟨subscribeRequest_pos context, sent⟩
  case h_5 offset pc =>
    obtain ⟨⟨t, turn⟩, turned, rfl⟩ := Option.map_eq_some_iff.mp taken
    exact request_sent inv pc turned
  case h_6 pc =>
    have awake : (s.workers w).pc ≠ .sleep := by simp [pc]
    simp only [Paired, pc, WorkerPc.phase] at paired
    cases taken
    exact inv.after (.close (sound.mine awake)) (sound.closed rfl paired)
  case h_7 pc =>
    have awake : (s.workers w).pc ≠ .sleep := by simp [pc]
    simp only [Sent, pc] at sent
    cases taken
    apply inv.after .nothing
    exact sound.quiet awake (by simp) rfl rfl ⟨rfl, rfl⟩ ⟨0, sent⟩
  case h_8 pc =>
    have awake : (s.workers w).pc ≠ .sleep := by simp [pc]
    simp only [Sent, pc] at sent
    cases taken
    split
    all_goals exact inv.goWorker awake (by simp [pc, WorkerPc.phase]) (by simp) sent
  case h_9 topic body pc =>
    have awake : (s.workers w).pc ≠ .sleep := by simp [pc]
    simp only [Sent, pc] at sent
    cases taken
    exact inv.goWorker awake (by simp [pc, WorkerPc.phase]) (by simp) sent
  case h_10 pc =>
    have awake : (s.workers w).pc ≠ .sleep := by simp [pc]
    simp only [Sent, pc] at sent
    simp only [Paired, pc, WorkerPc.phase] at paired
    cases taken
    simp only [State.disconnect, State.goWorker, set_workers, set_set]
    apply inv.after .nothing
    refine sound.quiet awake (by simp) rfl rfl ⟨paired.1, ?_, ?_⟩ sent
    · intro absent
      have flags := paired.2
      rw [absent] at flags
      exact flags
    · have flags := paired.2
      cases ping : (s.workers w).ping <;> simp_all [PingPc.Flags]
  case h_11 pc =>
    have awake : (s.workers w).pc ≠ .sleep := by simp [pc]
    simp only [Sent, pc] at sent
    simp only [Paired, pc, WorkerPc.phase] at paired
    cases taken
    apply inv.after (.shut _)
    exact sound.moved _ awake (by simp) rfl rfl rfl rfl (fun _ _ => rfl) paired sent
  case h_12 pc =>
    have awake : (s.workers w).pc ≠ .sleep := by simp [pc]
    simp only [Paired, pc, WorkerPc.phase] at paired
    split at taken
    · cases taken
      apply inv.after .nothing
      exact sound.quiet awake (by simp) rfl rfl ⟨rfl, paired.2.2⟩ (sent.framed awake)
    · cases taken
  case h_13 pc =>
    have awake : (s.workers w).pc ≠ .sleep := by simp [pc]
    simp only [Paired, pc, WorkerPc.phase] at paired
    cases taken
    exact inv.after (.close (sound.mine awake)) (sound.closed rfl ⟨paired.1, rfl⟩)
  case h_14 | h_15 => cases taken

theorem readStep_inv {events : List RecvEvent} (inv : Inv context s)
    (taken : readStep context s w events = some s') : Inv context s' := by
  have sent := (inv.sound w).sent
  unfold readStep at taken
  split at taken
  · rename_i pc
    have awake : (s.workers w).pc ≠ .sleep := by simp [pc]
    simp only [Sent, pc] at sent
    have giveUp : Inv context (s.goWorker w .giveUp) :=
      inv.goWorker awake (by simp [pc, WorkerPc.phase]) (by simp) (sent ▸ framed_talk context 0 0)
    cases taken
    split
    · exact giveUp
    · split
      · exact giveUp
      split
      · exact inv.goWorker awake (by simp [pc, WorkerPc.phase]) (by simp) sent
      · exact giveUp
  · rename_i pc
    have awake : (s.workers w).pc ≠ .sleep := by simp [pc]
    simp only [Sent, pc] at sent
    cases taken
    split
    · exact inv.goWorker awake (by simp [pc, WorkerPc.phase]) (by simp) sent
    · split
      all_goals exact inv.goWorker awake (by simp [pc, WorkerPc.phase]) (by simp) sent
  · cases taken

/-- The worker that a ping thread belongs to is in its reading loop, or waits for the thread. -/
theorem Sound.pinging (sound : Sound context s w) (present : (s.workers w).ping ≠ .absent) :
    (s.workers w).pingFd = (s.workers w).clientFd ∧
      (((s.workers w).pc.phase = .reading ∧
          (s.workers w).ping.Flags (s.workers w).socketDisconnected (s.shutDown (s.workers w).socket)) ∨
        ((s.workers w).pc.phase = .leaving ∧ (s.workers w).socketDisconnected = some true)) := by
  have paired := sound.paired
  cases phase : (s.workers w).pc.phase with
  | alone =>
    simp only [Paired, phase] at paired
    exact absurd paired.1 present
  | reading =>
    simp only [Paired, phase] at paired
    exact ⟨paired.1, .inl ⟨rfl, paired.2⟩⟩
  | leaving =>
    simp only [Paired, phase] at paired
    exact ⟨paired.1, .inr ⟨rfl, paired.2.2⟩⟩
  | joined =>
    simp only [Paired, phase] at paired
    exact absurd paired.1 present

theorem Sound.pinging_awake (sound : Sound context s w) (present : (s.workers w).ping ≠ .absent) :
    (s.workers w).pc ≠ .sleep := by
  intro asleep
  obtain ⟨_, phase | phase⟩ := sound.pinging present
  all_goals
    rw [asleep] at phase
    cases phase.1

/-- With a ping thread, what has been sent is what it has sent. -/
theorem sent_iff_said {worker : Worker} (phase : worker.pc.phase = .reading ∨ worker.pc.phase = .leaving)
    (wire : Bytes) : Sent context worker wire ↔ worker.ping.Said context wire := by
  unfold Sent
  cases pc : worker.pc <;> simp_all [WorkerPc.phase]

/-- A step of the ping thread. -/
theorem Inv.goPing (inv : Inv context s) (present : (s.workers w).ping ≠ .absent) {t : State}
    (effect : Effect s w t) (descriptors : t.descriptors = s.descriptors) (owner : t.owner = s.owner)
    (others : ∀ other, other ≠ (s.workers w).socket → t.wire other = s.wire other) {ping : PingPc}
    {flag : Option Bool} (present' : ping ≠ .absent)
    (flags : (s.workers w).ping.Flags (s.workers w).socketDisconnected (s.shutDown (s.workers w).socket) →
      ping.Flags flag (t.shutDown (s.workers w).socket))
    (stays : (s.workers w).socketDisconnected = some true → flag = some true)
    (said : (s.workers w).ping.Said context (s.wire (s.workers w).socket) →
      ping.Said context (t.wire (s.workers w).socket)) :
    Inv context (t.set w { s.workers w with socketDisconnected := flag, ping }) := by
  have sound := inv.sound w
  obtain ⟨fd, here⟩ := sound.pinging present
  have phase : (s.workers w).pc.phase = .reading ∨ (s.workers w).pc.phase = .leaving := here.imp And.left And.left
  have awake := sound.pinging_awake present
  have before := (sent_iff_said phase _).mp sound.sent
  apply inv.after effect
  apply sound.moved { s.workers w with socketDisconnected := flag, ping } awake awake rfl rfl descriptors owner others
  · rcases here with ⟨reading, before⟩ | ⟨leaving, set_⟩
    · simp only [Paired, reading]
      exact ⟨fd, flags before⟩
    · simp only [Paired, leaving]
      exact ⟨fd, present', stays set_⟩
  · exact (@sent_iff_said context { s.workers w with socketDisconnected := flag, ping } phase _).mpr (said before)

theorem ping_sent (inv : Inv context s) {offset : Nat} (at_ : (s.workers w).ping = .send offset) {t : State}
    {turn : SendTurn} {outcome : CallOutcome}
    (taken : sendTurn s (s.workers w).pingFd pingFrame offset outcome = some (t, turn)) :
    Inv context (t.afterPing w turn) := by
  have sound := inv.sound w
  have present : (s.workers w).ping ≠ .absent := by simp [at_]
  have awake := sound.pinging_awake present
  obtain ⟨fd, _⟩ := sound.pinging present
  rw [fd] at taken
  rcases sendTurn_cases taken with ⟨count, pos, fits, rfl, rfl⟩ | ⟨rfl, ⟨_, rfl⟩ | rfl⟩
  · obtain ⟨more, others⟩ := accept_own (sound.held awake).1 ((pingFrame.drop offset).take count)
    have effect := Effect.accept (sound.mine awake) ((pingFrame.drop offset).take count)
    by_cases onward : offset + count < pingFrame.length
    · rw [if_pos onward]
      apply inv.goPing present effect rfl rfl others (by simp)
      · exact fun flags => by rwa [at_] at flags
      · exact id
      · intro said
        rw [at_] at said
        obtain ⟨_, n, said⟩ := said
        refine ⟨onward, n, ?_⟩
        rw [more, said, talk_more]
    · rw [if_neg onward]
      apply inv.goPing present effect rfl rfl others (by simp)
      · exact fun flags => by rwa [at_] at flags
      · exact id
      · intro said
        rw [at_] at said
        obtain ⟨_, n, said⟩ := said
        refine ⟨n + 1, ?_⟩
        rw [more, said, talk_more, show offset + count = pingFrame.length by omega, talk_whole]
  · apply inv.goPing present .nothing rfl rfl (fun _ _ => rfl) (by simp)
    · exact fun flags => by rwa [at_] at flags
    · exact id
    · exact fun said => by rwa [at_] at said
  · apply inv.goPing present .nothing rfl rfl (fun _ _ => rfl) (by simp)
    · exact fun flags => by rwa [at_] at flags
    · exact id
    · exact fun said => said.framed

theorem pingStep_inv {outcome : CallOutcome} (inv : Inv context s) (taken : pingStep s w outcome = some s') :
    Inv context s' := by
  have sound := inv.sound w
  unfold pingStep at taken
  dsimp only at taken
  split at taken
  case h_1 i at_ =>
    cases taken
    apply inv.goPing (by simp [at_]) .nothing rfl rfl (fun _ _ => rfl) (by simp)
    · exact fun flags => by rwa [at_] at flags
    · exact id
    · exact fun said => by rwa [at_] at said
  case h_2 i at_ =>
    cases taken
    apply inv.goPing (by simp [at_]) .nothing rfl rfl (fun _ _ => rfl)
    · split
      · simp
      · split <;> simp
    · intro flags
      rw [at_] at flags
      have unset : (s.workers w).socketDisconnected = some false := flags
      rw [unset]
      simp only [Option.some.injEq, Bool.false_eq_true, if_false]
      split <;> rfl
    · exact id
    · intro said
      rw [at_] at said
      obtain ⟨n, said⟩ := said
      split
      · exact said ▸ framed_talk context n 0
      · split
        · exact ⟨n, said⟩
        · exact ⟨pingFrame_pos, n, said⟩
  case h_3 offset at_ =>
    have present : (s.workers w).ping ≠ .absent := by simp [at_]
    obtain ⟨⟨t, turn⟩, turned, rfl⟩ := Option.map_eq_some_iff.mp taken
    exact ping_sent inv at_ turned
  case h_4 at_ =>
    cases taken
    simp only [State.disconnect, State.goPing, set_workers, set_set]
    apply inv.goPing (by simp [at_]) .nothing rfl rfl (fun _ _ => rfl) (by simp)
    · intro flags
      rw [at_] at flags
      have unset : (s.workers w).socketDisconnected = some false := flags
      rw [unset]
      rfl
    · intro set_
      rw [set_]
      rfl
    · exact fun said => said.framed
  case h_5 at_ =>
    have present : (s.workers w).ping ≠ .absent := by simp [at_]
    obtain ⟨fd, phase⟩ := sound.pinging present
    cases taken
    apply inv.goPing present (.shut _) rfl rfl (fun _ _ => rfl) (by simp)
    · intro flags
      rw [at_] at flags
      refine ⟨flags, ?_⟩
      show (s.shutDown (s.workers w).socket || decide (s.descriptors (s.workers w).pingFd = _)) = true
      rw [fd, (sound.held (sound.pinging_awake present)).1]
      simp
    · exact id
    · exact fun said => said.framed
  case h_6 | h_7 => cases taken

theorem socket_inv {fd : Nat} (inv : Inv context s) (asleep : (s.workers w).pc = .sleep)
    (free : s.descriptors fd = none) :
    Inv context ((s.make fd (some w)).set w { s.workers w with pc := .connect, clientFd := fd, socket := s.made }) := by
  have sound := inv.sound w
  have paired := sound.paired
  simp only [Paired, asleep, WorkerPc.phase] at paired
  obtain ⟨unowned, unsent⟩ := inv.unmade s.made (Nat.le_refl _)
  apply inv.after (.make free)
  constructor
  · intro _
    rw [set_workers]
    exact ⟨if_pos rfl, if_pos rfl⟩
  · intro n socket found mine
    rw [set_workers]
    refine ⟨by simp, ?_⟩
    simp only [State.set, State.make] at found mine
    split at found
    · rename_i same
      exact ⟨same, (Option.some.inj found).symm⟩
    · rw [if_neg (Nat.ne_of_lt (inv.described n socket found))] at mine
      exact absurd asleep (sound.only n socket found mine).1
  · rw [set_workers]
    exact paired
  · rw [set_workers]
    exact unsent
  · intro socket mine
    simp only [State.set, State.make] at mine
    show Framed context (s.wire socket)
    split at mine
    · rename_i same
      rw [same, unsent]
      exact framed_request List.nil_prefix
    · exact sound.framed socket mine

theorem step_inv {action : Action} (inv : Inv context s) (foreign : Foreign s action)
    (taken : step context s action = some s') : Inv context s' := by
  cases action with
  | socket w fd =>
    simp only [step] at taken
    split at taken
    · rename_i ready
      cases taken
      exact socket_inv inv ready.1 ready.2
    · cases taken
  | worker w outcome => exact workerStep_inv inv taken
  | read w events => exact readStep_inv inv taken
  | ping w outcome => exact pingStep_inv inv taken
  | otherOpen fd =>
    simp only [step] at taken
    split at taken
    · rename_i free
      cases taken
      obtain ⟨unmade, described⟩ := make_unmade inv fd none
      exact ⟨unmade, described, fun w => (inv.sound w).apart (apart_make inv free (by simp))⟩
    · cases taken
  | otherClose fd =>
    cases taken
    refine ⟨inv.unmade, close_described inv fd, fun w => (inv.sound w).apart (apart_close ?_)⟩
    rw [show (s.descriptors fd).bind s.owner = none from foreign]
    simp
  | otherSend fd bytes =>
    cases taken
    refine ⟨accept_unmade inv fd bytes, inv.described, fun w => (inv.sound w).apart (apart_accept ?_ bytes)⟩
    rw [show (s.descriptors fd).bind s.owner = none from foreign]
    simp
  | otherShutdown fd =>
    cases taken
    exact ⟨inv.unmade, inv.described, fun w => (inv.sound w).apart (apart_shut fd)⟩

end Steps

theorem reachable_inv {context : GlobalContext} {s : State} (run : Run (step context) Foreign initial s) :
    Inv context s :=
  run.keeps (initial_inv context) fun _ _ _ inv foreign taken => step_inv inv foreign taken

/-! ### Descriptors and frames -/

/-- A process that relays `T`. -/
def sampleContext : GlobalContext :=
  .init { allownTopics := [ascii "T"], layerSubscribeTopics := [ascii "T"] }

/-- Worker 0 connects, subscribes in two parts and starts its ping thread, which sends the start of a ping. -/
def subscribed : List Action :=
  let response := encodeSocketFrame (ascii "subscribe") (ascii "ok")
  [.otherOpen 4, .socket 0 5] ++ List.replicate 3 (.worker 0 (.accepted 0)) ++
    [.worker 0 (.accepted 7), .worker 0 (.accepted ((subscribeRequest sampleContext).length - 7)),
      .read 0 (pushBack response []), .worker 0 (.accepted 0)] ++
    List.replicate 40 (.ping 0 (.accepted 0)) ++ [.ping 0 (.accepted 3), .worker 0 (.accepted 0)]

/-- Whichever way the workers, their ping threads and the rest of the process interleave, and however often a
worker connects again: every call of a worker and of its ping thread is about the socket that the worker has
opened in this turn; a worker has no other socket open, and none while it sleeps; the ping thread uses the flag
only while it is in scope. -/
theorem connector_descriptors (context : GlobalContext) {s : State} (run : Run (step context) Foreign initial s)
    (w : Nat) :
    (∀ fd, (s.workers w).calls = some fd ∨ (s.workers w).pingCalls = some fd →
      s.descriptors fd = some (s.workers w).socket) ∧
    (∀ fd socket, s.descriptors fd = some socket → s.owner socket = some w →
      (s.workers w).pc ≠ .sleep ∧ fd = (s.workers w).clientFd ∧ socket = (s.workers w).socket) ∧
    ((s.workers w).UsesFlag → (s.workers w).socketDisconnected.isSome) := by
  have sound := (reachable_inv run).sound w
  refine ⟨?_, sound.only, ?_⟩
  · rintro fd (called | called)
    · have awake : (s.workers w).pc ≠ .sleep := by
        intro asleep
        simp [Worker.calls, asleep] at called
      obtain rfl : (s.workers w).clientFd = fd := by
        unfold Worker.calls at called
        split at called <;> simp_all
      exact (sound.held awake).1
    · have present : (s.workers w).ping ≠ .absent := by
        intro absent
        simp [Worker.pingCalls, absent] at called
      obtain rfl : (s.workers w).pingFd = fd := by
        unfold Worker.pingCalls at called
        split at called <;> simp_all
      rw [(sound.pinging present).1]
      exact (sound.held (sound.pinging_awake present)).1
  · intro uses
    have present : (s.workers w).ping ≠ .absent := by
      intro absent
      have paired := sound.paired
      rcases uses with test | set_ | set_ | ⟨i, test⟩
      · simp only [Paired, test, WorkerPc.phase, absent] at paired
        exact paired.2
      · simp only [Paired, set_, WorkerPc.phase, absent] at paired
        exact paired.2
      · cases set_.symm.trans absent
      · cases test.symm.trans absent
    obtain ⟨_, ⟨_, flags⟩ | ⟨_, set_⟩⟩ := sound.pinging present
    · unfold PingPc.Flags at flags
      split at flags <;> simp_all
    · rw [set_]
      rfl

/-- While the first ping is being sent. -/
theorem connector_descriptors_pinging : ∃ s, Run (step sampleContext) Foreign initial s ∧
    (s.workers 0).pc = .read ∧ (s.workers 0).ping = .send 3 ∧
    (∀ fd, (s.workers 0).calls = some fd ∨ (s.workers 0).pingCalls = some fd →
      s.descriptors fd = some (s.workers 0).socket) ∧
    (∀ fd socket, s.descriptors fd = some socket → s.owner socket = some 0 →
      (s.workers 0).pc ≠ .sleep ∧ fd = (s.workers 0).clientFd ∧ socket = (s.workers 0).socket) ∧
    ((s.workers 0).UsesFlag → (s.workers 0).socketDisconnected.isSome) := by
  obtain ⟨s, run, passed⟩ := Run.exists_of_replay (step sampleContext) Foreign initial subscribed
    (fun s => decide ((s.workers 0).pc = .read ∧ (s.workers 0).ping = .send 3)) (by decide +kernel)
  obtain ⟨pc, ping⟩ := of_decide_eq_true passed
  exact ⟨s, run, pc, ping, connector_descriptors sampleContext run 0⟩

/-- Whatever `send` answers, what the peer of any layer connection has been sent is the start of the subscribe
request and pings: no frame follows one that was cut, and nothing else is ever sent there. -/
theorem connector_framed (context : GlobalContext) {s : State} (run : Run (step context) Foreign initial s)
    {w socket : Nat} (own : s.owner socket = some w) :
    ∃ n, s.wire socket <+: subscribeRequest context ++ (List.replicate n pingFrame).flatten :=
  ((reachable_inv run).sound w).framed socket own

theorem connector_framed_pinging : ∃ s, Run (step sampleContext) Foreign initial s ∧ s.owner 1 = some 0 ∧
    s.wire 1 = subscribeRequest sampleContext ++ pingFrame.take 3 ∧
    ∃ n, s.wire 1 <+: subscribeRequest sampleContext ++ (List.replicate n pingFrame).flatten := by
  obtain ⟨s, run, passed⟩ := Run.exists_of_replay (step sampleContext) Foreign initial subscribed
    (fun s => decide (s.owner 1 = some 0 ∧ s.wire 1 = subscribeRequest sampleContext ++ pingFrame.take 3))
    (by decide +kernel)
  obtain ⟨own, wire⟩ := of_decide_eq_true passed
  exact ⟨s, run, own, wire, connector_framed sampleContext run own⟩

/-! ### The end of a turn -/

/-- How many steps the worker has left once the flag is set. -/
def WorkerPc.rank : WorkerPc → Nat
  | .read => 7
  | .relay _ _ => 6
  | .loopTest => 5
  | .setFlag => 4
  | .shutdown => 3
  | .join => 2
  | .close => 1
  | _ => 0

def PingPc.rank : PingPc → Nat
  | .nap _ => 2
  | .flagTest _ => 1
  | .send offset => 2 + (pingFrame.length - offset)
  | .setFlag => 2
  | .shutdown => 1
  | .absent | .exited => 0

/-- The worker is in the turn of this socket, with the flag set. -/
def Ending (w socket : Nat) (s : State) : Prop :=
  (s.workers w).pc ≠ .sleep ∧ (s.workers w).socket = socket ∧ (s.workers w).socketDisconnected = some true

instance (w socket : Nat) (s : State) : Decidable (Ending w socket s) := inferInstanceAs (Decidable (_ ∧ _))

def InTurn (w socket : Nat) (s : State) (action : Action) : Prop := Foreign s action ∧ Ending w socket s

instance (w socket : Nat) (s : State) (action : Action) : Decidable (InTurn w socket s action) :=
  inferInstanceAs (Decidable (_ ∧ _))

/-- The steps of worker `w` and of its ping thread, other than a `send` that is interrupted. -/
def ofTurn (w : Nat) : Action → Bool
  | .worker v outcome | .ping v outcome => v == w && outcome != .interrupted
  | .read v _ => v == w
  | _ => false

def readsFrame (w : Nat) : Action → Bool
  | .read v _ => v == w
  | _ => false

section Ending
variable {context : GlobalContext} {s s' : State} {w socket : Nat}

theorem set_other {v : Nat} (other : w ≠ v) (worker : Worker) : (s.set v worker).workers w = s.workers w :=
  if_neg other

theorem sendTurn_workers {t : State} {fd offset : Nat} {frame : Bytes} {outcome : CallOutcome} {turn : SendTurn}
    (taken : sendTurn s fd frame offset outcome = some (t, turn)) : t.workers = s.workers := by
  rcases sendTurn_cases taken with ⟨_, _, _, rfl, _⟩ | ⟨rfl, _⟩ <;> rfl

/-- A step of the threads of another worker leaves the worker as it is. -/
theorem workerStep_other {v : Nat} {outcome : CallOutcome} (other : w ≠ v)
    (taken : workerStep context s v outcome = some s') : s'.workers w = s.workers w := by
  unfold workerStep at taken
  dsimp only at taken
  split at taken
  case h_1 =>
    split at taken <;> cases taken
    rfl
  case h_5 =>
    obtain ⟨⟨t, turn⟩, turned, rfl⟩ := Option.map_eq_some_iff.mp taken
    rw [← sendTurn_workers turned]
    cases turn <;> exact set_other other _
  case h_10 =>
    cases taken
    rw [State.goWorker, set_other other]
    exact set_other other _
  case h_12 =>
    split at taken <;> cases taken
    exact set_other other _
  case h_14 | h_15 => cases taken
  all_goals
    cases taken
    exact set_other other _

theorem readStep_other {v : Nat} {events : List RecvEvent} (other : w ≠ v)
    (taken : readStep context s v events = some s') : s'.workers w = s.workers w := by
  unfold readStep at taken
  split at taken
  · cases taken
    split
    · exact set_other other _
    · split
      · exact set_other other _
      · split <;> exact set_other other _
  · cases taken
    split
    · exact set_other other _
    · split <;> exact set_other other _
  · cases taken

theorem pingStep_other {v : Nat} {outcome : CallOutcome} (other : w ≠ v)
    (taken : pingStep s v outcome = some s') : s'.workers w = s.workers w := by
  unfold pingStep at taken
  dsimp only at taken
  split at taken
  case h_3 =>
    obtain ⟨⟨t, turn⟩, turned, rfl⟩ := Option.map_eq_some_iff.mp taken
    rw [← sendTurn_workers turned]
    cases turn <;> exact set_other other _
  case h_4 =>
    cases taken
    rw [State.goPing, set_other other]
    exact set_other other _
  case h_6 | h_7 => cases taken
  all_goals
    cases taken
    exact set_other other _

theorem Ending.phase (inv : Inv context s) (ending : Ending w socket s) : (s.workers w).pc.phase ≠ .alone := by
  intro alone
  have paired := (inv.sound w).paired
  simp only [Paired, alone] at paired
  cases paired.2.symm.trans ending.2.2

theorem workerStep_rank {outcome : CallOutcome} (inv : Inv context s) (ending : Ending w socket s)
    (taken : workerStep context s w outcome = some s') :
    (s'.workers w).pc.rank < (s.workers w).pc.rank ∧ (s'.workers w).pc ≠ .read ∧
      (s'.workers w).ping.rank = (s.workers w).ping.rank := by
  have phase := ending.phase inv
  unfold workerStep at taken
  dsimp only at taken
  split at taken
  case h_1 | h_2 | h_3 | h_4 | h_5 | h_6 | h_7 =>
    rename_i pc
    simp [pc, WorkerPc.phase] at phase
  case h_8 pc =>
    rw [if_pos ending.2.2] at taken
    cases taken
    simp [State.goWorker, pc, WorkerPc.rank]
  case h_12 pc =>
    split at taken
    · rename_i exited
      cases taken
      simp [pc, exited, WorkerPc.rank, PingPc.rank]
    · cases taken
  case h_14 | h_15 => cases taken
  all_goals
    rename_i pc
    cases taken
    simp [State.goWorker, State.disconnect, State.shut, State.close, State.set, pc, WorkerPc.rank]

theorem readStep_rank {events : List RecvEvent} (inv : Inv context s) (ending : Ending w socket s)
    (taken : readStep context s w events = some s') :
    (s.workers w).pc = .read ∧ (s'.workers w).pc.rank < (s.workers w).pc.rank ∧ (s'.workers w).pc ≠ .read ∧
      (s'.workers w).ping = (s.workers w).ping := by
  have phase := ending.phase inv
  unfold readStep at taken
  split at taken
  · rename_i pc
    simp [pc, WorkerPc.phase] at phase
  · rename_i pc
    cases taken
    refine ⟨pc, ?_⟩
    split
    · simp [State.goWorker, pc, WorkerPc.rank]
    · split <;> simp [State.goWorker, pc, WorkerPc.rank]
  · cases taken

theorem pingStep_rank {outcome : CallOutcome} (inv : Inv context s) (ending : Ending w socket s)
    (taken : pingStep s w outcome = some s') :
    (s'.workers w).pc = (s.workers w).pc ∧ (s'.workers w).ping.rank ≤ (s.workers w).ping.rank ∧
      (outcome ≠ .interrupted → (s'.workers w).ping.rank < (s.workers w).ping.rank) := by
  unfold pingStep at taken
  dsimp only at taken
  split at taken
  case h_1 at_ =>
    cases taken
    simp [State.goPing, at_, PingPc.rank]
  case h_2 at_ =>
    rw [if_pos ending.2.2] at taken
    cases taken
    simp [State.goPing, at_, PingPc.rank]
  case h_3 offset at_ =>
    obtain ⟨⟨t, turn⟩, turned, rfl⟩ := Option.map_eq_some_iff.mp taken
    have short : offset < pingFrame.length := by
      have present : (s.workers w).ping ≠ .absent := by simp [at_]
      have here := ((inv.sound w).pinging present).2
      have said := (sent_iff_said (here.imp And.left And.left) _).mp (inv.sound w).sent
      rw [at_] at said
      exact said.1
    rcases sendTurn_cases turned with ⟨count, pos, fits, rfl, rfl⟩ | ⟨rfl, ⟨rfl, rfl⟩ | rfl⟩
    · split
      all_goals
        simp only [State.afterPing, State.goPing, set_workers, at_, PingPc.rank]
        refine ⟨?_, by omega, fun _ => by omega⟩
        simp [State.accept]
    · simp [State.afterPing, State.goPing, at_, PingPc.rank]
    · simp only [State.afterPing, State.goPing, set_workers, at_, PingPc.rank]
      exact ⟨trivial, by omega, fun _ => by omega⟩
  case h_4 at_ =>
    cases taken
    simp [State.goPing, State.disconnect, at_, PingPc.rank]
  case h_5 at_ =>
    cases taken
    simp [State.goPing, State.shut, State.set, at_, PingPc.rank]
  case h_6 | h_7 => cases taken

def Worker.rank (worker : Worker) : Nat := worker.pc.rank + worker.ping.rank

/-- Every step of the turn's threads is paid for. -/
theorem step_pays {action : Action} (inv : Inv context s) (ending : Ending w socket s)
    (taken : step context s action = some s') :
    (s'.workers w).rank + (if ofTurn w action then 1 else 0) ≤ (s.workers w).rank ∧
      (if (s'.workers w).pc = .read then 1 else 0) + (if readsFrame w action then 1 else 0) ≤
        (if (s.workers w).pc = .read then 1 else 0) := by
  have idle (same : s'.workers w = s.workers w) (none_ : ofTurn w action = false) (unread : readsFrame w action = false) :
      (s'.workers w).rank + (if ofTurn w action then 1 else 0) ≤ (s.workers w).rank ∧
        (if (s'.workers w).pc = .read then 1 else 0) + (if readsFrame w action then 1 else 0) ≤
          (if (s.workers w).pc = .read then 1 else 0) := by
    rw [same, none_, unread]
    exact ⟨Nat.le_refl _, Nat.le_refl _⟩
  cases action with
  | socket v fd =>
    simp only [step] at taken
    split at taken
    · rename_i ready
      have other : w ≠ v := by
        rintro rfl
        exact ending.1 ready.1
      cases taken
      exact idle (set_other other _) rfl rfl
    · cases taken
  | worker v outcome =>
    by_cases same : v = w
    · subst same
      obtain ⟨lower, left, ping⟩ := workerStep_rank inv ending taken
      simp only [Worker.rank, readsFrame, if_neg left, ping]
      refine ⟨?_, by simp⟩
      split <;> omega
    · exact idle (workerStep_other (Ne.symm same) taken) (by simp [ofTurn, same]) rfl
  | read v events =>
    by_cases same : v = w
    · subst same
      obtain ⟨at_, lower, left, ping⟩ := readStep_rank inv ending taken
      simp only [Worker.rank, if_neg left, if_pos at_, ping]
      refine ⟨?_, ?_⟩
      · split <;> omega
      · split <;> omega
    · exact idle (readStep_other (Ne.symm same) taken) (by simp [ofTurn, same]) (by simp [readsFrame, same])
  | ping v outcome =>
    by_cases same : v = w
    · subst same
      obtain ⟨pc, le, lower⟩ := pingStep_rank inv ending taken
      simp only [Worker.rank, pc, readsFrame]
      refine ⟨?_, by simp⟩
      by_cases counted : outcome = .interrupted
      · have none_ : ofTurn v (.ping v outcome) = false := by simp [ofTurn, counted]
        rw [none_, if_neg Bool.false_ne_true]
        omega
      · have lower := lower counted
        split <;> omega
    · exact idle (pingStep_other (Ne.symm same) taken) (by simp [ofTurn, same]) rfl
  | otherOpen fd =>
    simp only [step] at taken
    split at taken
    · cases taken
      exact idle rfl rfl rfl
    · cases taken
  | otherClose | otherSend | otherShutdown =>
    cases taken
    exact idle rfl rfl rfl

theorem rank_le (s : State) (w : Nat) : (s.workers w).rank ≤ 9 + pingFrame.length := by
  have pc : ∀ pc : WorkerPc, pc.rank ≤ 7 := by
    intro pc
    cases pc <;> simp [WorkerPc.rank]
  have ping : ∀ ping : PingPc, ping.rank ≤ 2 + pingFrame.length := by
    intro ping
    cases ping <;> simp only [PingPc.rank] <;> omega
  have first := pc (s.workers w).pc
  have second := ping (s.workers w).ping
  unfold Worker.rank
  omega

/-- One of the two threads can go on. -/
theorem ending_enabled (context : GlobalContext) (s : State) (inv : Inv context s) (ending : Ending w socket s) :
    ∃ action s', ofTurn w action = true ∧ Foreign s action ∧ step context s action = some s' := by
  have phase := ending.phase inv
  have worker (s' : State) (taken : workerStep context s w .failed = some s') :
      ∃ action s', ofTurn w action = true ∧ Foreign s action ∧ step context s action = some s' :=
    ⟨.worker w .failed, s', by simp [ofTurn], trivial, taken⟩
  cases pc : (s.workers w).pc with
  | sleep | connect | setReadTimeout | setWriteTimeout | subscribe | response | giveUp | startPing =>
    simp [pc, WorkerPc.phase] at phase
  | read =>
    obtain ⟨s', taken⟩ : ∃ s', readStep context s w [] = some s' := by simp [readStep, pc]
    exact ⟨.read w [], s', by simp [ofTurn], trivial, taken⟩
  | join =>
    have paired := (inv.sound w).paired
    simp only [Paired, pc, WorkerPc.phase] at paired
    by_cases exited : (s.workers w).ping = .exited
    · exact worker _ (by simp only [workerStep, pc, if_pos exited]; rfl)
    · have ping (s' : State) (taken : pingStep s w .failed = some s') :
          ∃ action s', ofTurn w action = true ∧ Foreign s action ∧ step context s action = some s' :=
        ⟨.ping w .failed, s', by simp [ofTurn], trivial, taken⟩
      cases at_ : (s.workers w).ping with
      | absent => exact absurd at_ paired.2.1
      | exited => exact absurd at_ exited
      | _ => exact ping _ (by simp only [pingStep, at_, sendTurn, Option.map_some]; rfl)
  | _ => exact worker _ (by simp only [workerStep, pc]; rfl)

end Ending

/-- Once the flag is set, by the worker that has lost its connection or by the ping thread that could not send,
the turn ends: whatever the others do, the two threads take no more than 9 steps and one for each byte of a
ping before the socket is closed, interrupted calls aside; the worker reads at most one more frame; and until
the socket is closed one of them can go on. -/
theorem connector_turn_ends (context : GlobalContext) {s : State} (run : Run (step context) Foreign initial s)
    {w socket : Nat} (ending : Ending w socket s) :
    (∀ actions s', replay (guarded (step context) (InTurn w socket)) s actions = some s' →
      actions.countP (ofTurn w) ≤ 9 + pingFrame.length ∧ actions.countP (readsFrame w) ≤ 1) ∧
    ∃ action s', ofTurn w action = true ∧ Foreign s action ∧ step context s action = some s' := by
  have inv := reachable_inv run
  have keep : ∀ s action s', Inv context s → InTurn w socket s action → step context s action = some s' →
      Inv context s' := fun _ _ _ inv held taken => step_inv inv held.1 taken
  have pays : ∀ s action s', Inv context s → InTurn w socket s action → step context s action = some s' → _ ∧ _ :=
    fun _ _ _ inv held taken => step_pays inv held.2 taken
  refine ⟨fun actions s' replayed => ⟨?_, ?_⟩, ending_enabled context s inv ending⟩
  · have spent := replay_budget keep (fun s a s' inv held taken => (pays s a s' inv held taken).1) inv replayed
    have start := rank_le s w
    omega
  · have spent := replay_budget keep (fun s a s' inv held taken => (pays s a s' inv held taken).2) inv replayed
    have start : (if (s.workers w).pc = .read then 1 else 0) ≤ 1 := by split <;> omega
    omega

/-- The peer closes the connection while the first ping is being sent. -/
theorem connector_turn_ends_closed : ∃ s, Run (step sampleContext) Foreign initial s ∧
    (s.workers 0).ping = .send 3 ∧
    (∀ actions s', replay (guarded (step sampleContext) (InTurn 0 1)) s actions = some s' →
      actions.countP (ofTurn 0) ≤ 9 + pingFrame.length ∧ actions.countP (readsFrame 0) ≤ 1) ∧
    ∃ action s', ofTurn 0 action = true ∧ Foreign s action ∧ step sampleContext s action = some s' := by
  obtain ⟨s, run, passed⟩ := Run.exists_of_replay (step sampleContext) Foreign initial
    (subscribed ++ [.read 0 [], .worker 0 (.accepted 0)])
    (fun s => decide (Ending 0 1 s ∧ (s.workers 0).ping = .send 3)) (by decide +kernel)
  obtain ⟨ending, ping⟩ := of_decide_eq_true passed
  exact ⟨s, run, ping, connector_turn_ends sampleContext run ending⟩

end MessageRepeater.Layer.Connector
