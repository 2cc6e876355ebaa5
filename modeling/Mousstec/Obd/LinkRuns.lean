import Mousstec.Obd.Link
import Mathlib.Data.List.Nodup

/-!
# A command gets its own reply

Replies carry no name: a reply belongs to whatever command is pending when its
prompt arrives.  Every command that resolves gets its own reply in every run in
which a command is written only after all that the adapter owes has arrived.
-/

namespace Mousstec

namespace Obd

open Library

/-- A command that resolves does so with what the adapter answered to it. -/
structure OwnReplies (link : Link) : Prop where
  own : ∀ id value, (id, value) ∈ link.resolved → ∃ cmd text,
    link.sent[id]? = some cmd ∧ (id, text) ∈ link.replies ∧
      value = stripEcho cmd (clean text)
  once : (link.replies.map Prod.fst).Nodup

/-- A command is written only when the adapter owes nothing and nothing is on
its way. -/
def LinkOp.Careful (op : LinkOp) (link : Link) : Prop :=
  match op with
  | start => link.owed = [] ∧ link.wire = []
  | _ => True

instance LinkOp.decidableCareful (op : LinkOp) (link : Link) :
    Decidable (op.Careful link) :=
  match op with
  | .start => inferInstanceAs (Decidable (_ ∧ _))
  | .send _ => .isTrue trivial
  | .written => .isTrue trivial
  | .fail _ => .isTrue trivial
  | .timeout _ => .isTrue trivial
  | .finish => .isTrue trivial
  | .answer _ => .isTrue trivial
  | .arrive _ => .isTrue trivial
  | .bridgeError => .isTrue trivial
  | .close => .isTrue trivial

/-- Nothing but the reply to a command is on its way. -/
def Link.Awaits (link : Link) (id : ℕ) : Prop :=
  (link.owed = [id] ∧ link.wire = [] ∧ link.rxBuffer = []) ∨
    (link.owed = [] ∧ ∃ text, prompt ∉ text ∧ (id, text) ∈ link.replies ∧
      link.rxBuffer ++ link.wire = text ++ [prompt])

/-- The commands that the adapter answered, that it owes, and that have not
reached it. -/
def Link.ids (link : Link) : List ℕ :=
  link.replies.map Prod.fst ++ link.owed ++ link.chain.map Prod.fst

/-- A call has the command that was sent, and no reply but its own. -/
structure Call.Sound (link : Link) (call : Call) : Prop where
  sent : link.sent[call.id]? = some call.cmd
  reply : ∀ payload, call.outcome = some (.reply payload) →
    ∃ text, (call.id, text) ∈ link.replies ∧ payload = clean text
  waiting : call.outcome = none → link.pending = some call.id →
    link.Awaits call.id

/-- What holds after every careful operation. -/
structure SoundLink (link : Link) : Prop where
  own : ∀ id value, (id, value) ∈ link.resolved → ∃ cmd text,
    link.sent[id]? = some cmd ∧ (id, text) ∈ link.replies ∧
      value = stripEcho cmd (clean text)
  once : link.ids.Nodup
  known : ∀ id ∈ link.ids, id < link.sent.length
  chain : ∀ entry ∈ link.chain, link.sent[entry.1]? = some entry.2
  call : ∀ call, link.call = some call → call.Sound link

theorem SoundLink.ownReplies {link : Link} (sound : SoundLink link) :
    OwnReplies link where
  own := sound.own
  once := by
    have once := sound.once
    rw [Link.ids, List.append_assoc] at once
    exact (List.nodup_append.mp once).1

section Steps

variable {link : Link} (sound : SoundLink link)

include sound

theorem SoundLink.send {cmd : List Char} : SoundLink (link.send cmd) := by
  have ids : (link.send cmd).ids = link.ids ++ [link.sent.length] := by
    simp [Link.send, Link.ids]
  have earlier : ∀ (id : ℕ) found, link.sent[id]? = some found →
      (link.sent ++ [cmd])[id]? = some found := by
    intro id found there
    obtain ⟨inside, -⟩ := List.getElem?_eq_some_iff.mp there
    rw [List.getElem?_append_left inside]
    exact there
  constructor
  · intro id value member
    obtain ⟨cmd, text, there, rest⟩ := sound.own id value member
    exact ⟨cmd, text, earlier _ _ there, rest⟩
  · rw [ids, List.nodup_append]
    refine ⟨sound.once, List.nodup_singleton _, ?_⟩
    intro id member other single
    rw [List.mem_singleton.mp single]
    exact (sound.known id member).ne
  · intro id member
    have length : (link.send cmd).sent.length = link.sent.length + 1 := by
      simp [Link.send]
    rw [ids] at member
    rcases List.mem_append.mp member with there | new
    · have less := sound.known id there
      omega
    · rw [List.mem_singleton.mp new]
      omega
  · intro entry member
    rcases List.mem_append.mp member with there | new
    · exact earlier _ _ (sound.chain entry there)
    · obtain rfl := List.mem_singleton.mp new
      simp [Link.send]
  · intro call found
    obtain ⟨there, reply, waiting⟩ := sound.call call found
    exact ⟨earlier _ _ there, reply, waiting⟩

theorem SoundLink.start (careful : LinkOp.start.Careful link) :
    SoundLink link.start := by
  obtain ⟨owed, wire⟩ := careful
  unfold Link.start
  split
  · rename_i id cmd chain idle listed
    have found : link.sent[id]? = some cmd :=
      sound.chain (id, cmd) (by rw [listed]; exact List.mem_cons_self)
    have rest : ∀ entry ∈ chain, link.sent[entry.1]? = some entry.2 :=
      fun entry member =>
        sound.chain entry (by rw [listed]; exact List.mem_cons_of_mem _ member)
    have once := sound.once
    have known := sound.known
    rw [Link.ids, listed, List.map_cons] at once known
    split
    · constructor
      · exact sound.own
      · simpa [Link.ids] using once
      · simpa [Link.ids] using known
      · exact rest
      · intro call same
        obtain rfl := Option.some.inj same
        constructor
        · exact found
        · intro payload none
          cases none
        · exact fun _ _ => .inl ⟨by simp [owed], wire, rfl⟩
    · have fewer : (link.replies.map Prod.fst ++ link.owed ++
          chain.map Prod.fst).Sublist (link.replies.map Prod.fst ++ link.owed ++
            id :: chain.map Prod.fst) :=
        (List.Sublist.refl _).append (List.sublist_cons_self _ _)
      constructor
      · exact sound.own
      · exact once.sublist fewer
      · exact fun other member => known other (fewer.subset member)
      · exact rest
      · intro call same
        rw [idle] at same
        cases same
  · exact sound

theorem SoundLink.written : SoundLink link.written where
  own := sound.own
  once := sound.once
  known := sound.known
  chain := sound.chain
  call call found := by
    obtain ⟨earlier, there, rfl⟩ := Option.map_eq_some_iff.mp found
    obtain ⟨same, reply, waiting⟩ := sound.call earlier there
    exact ⟨same, reply, waiting⟩

theorem SoundLink.ended {owed : List ℕ} (fewer : owed.Sublist link.owed) :
    SoundLink { link with
      call := none
      owed } := by
  have ids : (link.replies.map Prod.fst ++ owed ++
      link.chain.map Prod.fst).Sublist link.ids :=
    ((List.Sublist.refl _).append fewer).append (.refl _)
  constructor
  · exact sound.own
  · exact sound.once.sublist ids
  · exact fun id member => sound.known id (ids.subset member)
  · exact sound.chain
  · exact fun call found => by cases found

theorem SoundLink.fail {reached : Bool} : SoundLink (link.fail reached) := by
  unfold Link.fail
  split
  · apply sound.ended
    split
    · exact .refl _
    · exact List.erase_sublist
  · exact sound

theorem SoundLink.finish : SoundLink link.finish := by
  unfold Link.finish
  split
  · rename_i id cmd payload found
    obtain ⟨sent, reply, -⟩ := sound.call _ found
    obtain ⟨text, there, rfl⟩ := reply payload rfl
    have ended := sound.ended (.refl _)
    refine ⟨?_, ended.once, ended.known, ended.chain,
      fun call none => by cases none⟩
    intro other value member
    rcases List.mem_cons.mp member with same | earlier
    · obtain ⟨rfl, rfl⟩ := Prod.mk.inj same
      exact ⟨cmd, text, sent, there, rfl⟩
    · exact sound.own other value earlier
  · exact sound.ended (.refl _)
  · exact sound

theorem SoundLink.answer {text : List Char} :
    SoundLink (link.answer text) := by
  unfold Link.answer
  split
  · exact sound
  · rename_i id owed listed
    split
    · exact sound
    · rename_i unprompted
      have ids : (link.replies ++ [(id, text)]).map Prod.fst ++ owed ++
          link.chain.map Prod.fst = link.ids := by
        simp [Link.ids, listed]
      constructor
      · intro other value member
        obtain ⟨cmd, found, there, reply, same⟩ := sound.own other value member
        exact ⟨cmd, found, there, List.mem_append_left _ reply, same⟩
      · rw [Link.ids, ids]
        exact sound.once
      · intro other member
        rw [Link.ids, ids] at member
        exact sound.known other member
      · exact sound.chain
      · intro call found
        obtain ⟨sent, reply, waiting⟩ := sound.call call found
        refine ⟨sent, ?_, ?_⟩
        · intro payload settled
          obtain ⟨earlier, there, same⟩ := reply payload settled
          exact ⟨earlier, List.mem_append_left _ there, same⟩
        · intro unsettled pending
          rcases waiting unsettled pending with ⟨owes, wire, buffer⟩ |
            ⟨none, -⟩
          · rw [listed] at owes
            obtain ⟨rfl, rfl⟩ := List.cons.inj owes
            refine .inr ⟨rfl, text, unprompted,
              List.mem_append_right _ List.mem_cons_self, ?_⟩
            simp [wire, buffer]
          · rw [listed] at none
            cases none

theorem SoundLink.rejected {connected : Bool} {rxBuffer wire : List Char}
    {pending : Option ℕ} {timers : List ℕ} {call : Option Call}
    (none : pending = none)
    (calls : ∀ found, call = some found → ∃ earlier,
      link.call = some earlier ∧ found.id = earlier.id ∧
        found.cmd = earlier.cmd ∧
        (found.outcome = earlier.outcome ∨ found.outcome = some .rejected)) :
    SoundLink { link with
      connected
      rxBuffer
      pending
      timers
      call
      wire } := by
  refine ⟨sound.own, sound.once, sound.known, sound.chain, ?_⟩
  intro found there
  obtain ⟨earlier, before, id, cmd, outcome⟩ := calls found there
  obtain ⟨sent, reply, -⟩ := sound.call earlier before
  refine ⟨by rw [id, cmd]; exact sent, ?_, ?_⟩
  · intro payload settled
    rw [id]
    rcases outcome with same | rejected
    · exact reply payload (same.symm.trans settled)
    · rw [rejected] at settled
      cases settled
  · intro _ pending
    rw [none] at pending
    cases pending

omit sound in
theorem Call.settle_cases (outcome : Outcome) (id : ℕ) (call : Call) :
    (call.settle outcome id).id = call.id ∧
      (call.settle outcome id).cmd = call.cmd ∧
      ((call.settle outcome id).outcome = call.outcome ∨
        (call.id = id ∧ call.outcome = none ∧
          (call.settle outcome id).outcome = some outcome)) := by
  unfold Call.settle
  split
  · rename_i open'
    exact ⟨rfl, rfl, .inr ⟨open'.1, open'.2, rfl⟩⟩
  · exact ⟨rfl, rfl, .inl rfl⟩

omit sound in
theorem rejected_calls {id : ℕ} : ∀ found,
    link.call.map (Call.settle .rejected id) = some found → ∃ earlier,
      link.call = some earlier ∧ found.id = earlier.id ∧
        found.cmd = earlier.cmd ∧
        (found.outcome = earlier.outcome ∨
          found.outcome = some .rejected) := by
  intro found there
  obtain ⟨earlier, before, rfl⟩ := Option.map_eq_some_iff.mp there
  obtain ⟨same, cmd, outcome⟩ := earlier.settle_cases .rejected id
  exact ⟨earlier, before, same, cmd, outcome.imp_right fun rest => rest.2.2⟩

theorem SoundLink.timeout {id : ℕ} : SoundLink (link.timeout id) := by
  unfold Link.timeout
  split
  · exact sound.rejected rfl rejected_calls
  · exact sound

theorem SoundLink.rejectPending {connected : Bool} {wire : List Char} :
    SoundLink (Link.settlePending
      { link with
        connected
        wire } .rejected) := by
  unfold Link.settlePending
  split
  · rename_i none
    exact sound.rejected none fun found there =>
      ⟨found, there, rfl, rfl, .inl rfl⟩
  · exact sound.rejected rfl rejected_calls

theorem SoundLink.bridgeError : SoundLink link.bridgeError := by
  unfold Link.bridgeError
  split
  · exact sound.rejectPending
  · exact sound

theorem SoundLink.close : SoundLink link.close := by
  unfold Link.close
  split
  · exact sound.rejectPending
  · refine ⟨sound.own, sound.once, sound.known, sound.chain, ?_⟩
    intro call found
    obtain ⟨sent, reply, waiting⟩ := sound.call call found
    exact ⟨sent, reply, waiting⟩

theorem SoundLink.heardMore {wire piece : List Char}
    (split : piece ++ wire = link.wire) :
    SoundLink { link with
      wire
      rxBuffer := link.rxBuffer ++ piece } := by
  refine ⟨sound.own, sound.once, sound.known, sound.chain, ?_⟩
  intro call found
  obtain ⟨sent, reply, waiting⟩ := sound.call call found
  refine ⟨sent, reply, ?_⟩
  intro unsettled pending
  rcases waiting unsettled pending with ⟨owed, none, buffer⟩ |
    ⟨owed, text, unprompted, there, whole⟩
  · rw [none] at split
    obtain ⟨rfl, rfl⟩ := List.append_eq_nil_iff.mp split
    refine .inl ⟨owed, rfl, ?_⟩
    simp [buffer]
  · refine .inr ⟨owed, text, unprompted, there, ?_⟩
    simp only [List.append_assoc, split, whole]

theorem SoundLink.heardReply {wire payload : List Char}
    (own : ∀ call, link.call = some call → call.outcome = none →
      link.pending = some call.id →
      ∃ text, (call.id, text) ∈ link.replies ∧ payload = clean text) :
    SoundLink (Link.settlePending
      { link with
        wire
        rxBuffer := [] } (.reply payload)) := by
  unfold Link.settlePending
  split
  · rename_i none
    exact sound.rejected none fun found there =>
      ⟨found, there, rfl, rfl, .inl rfl⟩
  · rename_i id pending
    refine ⟨sound.own, sound.once, sound.known, sound.chain, ?_⟩
    intro call found
    obtain ⟨earlier, there, rfl⟩ := Option.map_eq_some_iff.mp found
    obtain ⟨same, cmd, outcome⟩ := earlier.settle_cases (.reply payload) id
    obtain ⟨sent, reply, -⟩ := sound.call earlier there
    refine ⟨by rw [same, cmd]; exact sent, ?_, ?_⟩
    · intro settled is
      rw [same]
      rcases outcome with old | ⟨rfl, open', new⟩
      · exact reply settled (old.symm.trans is)
      · rw [new] at is
        obtain rfl : payload = settled := by simpa using is
        exact own earlier there open' pending
    · intro _ none
      cases none

theorem SoundLink.arrive {length : ℕ} : SoundLink (link.arrive length) := by
  have split : link.wire.take length ++ link.wire.drop length = link.wire :=
    List.take_append_drop length link.wire
  unfold Link.arrive
  simp only
  cases heard : link.driver.hear link.rxBuffer (link.wire.take length) with
  | bridgeError => exact sound.rejectPending
  | more rxBuffer =>
      obtain ⟨rfl, -⟩ := Driver.hear_more heard
      exact sound.heardMore split
  | reply payload =>
      refine sound.heardReply ?_
      intro call found unsettled pending
      obtain ⟨-, -, waiting⟩ := sound.call call found
      rcases waiting unsettled pending with ⟨owed, none, buffer⟩ |
        ⟨owed, text, unprompted, there, whole⟩
      · rw [none, buffer, List.take_nil, Driver.hear_nil] at heard
        cases heard
      · have pieces : link.rxBuffer ++ link.wire.take length ++
            link.wire.drop length = text ++ [prompt] := by
          rw [List.append_assoc, split, whole]
        rcases link.driver.hear_cases unprompted pieces with other | other |
          ⟨-, same⟩
        · rw [heard] at other
          cases other
        · rw [heard] at other
          cases other
        · rw [heard] at same
          obtain rfl := Heard.reply.inj same
          exact ⟨text, there, rfl⟩

theorem SoundLink.step {op : LinkOp} (careful : op.Careful link) :
    SoundLink (op.step link) := by
  cases op with
  | send cmd => exact sound.send
  | start => exact sound.start careful
  | written => exact sound.written
  | fail reached => exact sound.fail
  | timeout id => exact sound.timeout
  | finish => exact sound.finish
  | answer text => exact sound.answer
  | arrive length => exact sound.arrive
  | bridgeError => exact sound.bridgeError
  | close => exact sound.close

end Steps

theorem sound_openedLink (driver : Driver) : SoundLink (openedLink driver) where
  own _ _ member := by cases member
  once := List.nodup_nil
  known _ member := by cases member
  chain _ member := by cases member
  call _ found := by cases found

/-- Every command that resolves gets its own reply, in every careful run. -/
theorem link_ownReplies (driver : Driver) (ops : List LinkOp)
    (careful : Txn.Throughout LinkOp.run LinkOp.Careful ops
      (openedLink driver)) :
    OwnReplies (Txn.after LinkOp.run ops (openedLink driver)) := by
  apply SoundLink.ownReplies
  refine Txn.after_of_throughout SoundLink ?_ ?_ ops _
    (sound_openedLink driver) careful
  · intro op before error after returned
    cases returned
  · intro op before after sound met returned
    obtain rfl := Txn.modify_eq_ok.mp returned
    exact sound.step met

/-- A command that times out, a pause in which its reply arrives in two pieces,
and a command that is answered in time. -/
def pausedLink : List LinkOp :=
  [.send "03".toList, .send "04".toList, .start, .written, .timeout 0, .finish,
    .answer "43 01 33 00 00 00 00
".toList, .arrive 5, .arrive 40, .start,
    .answer "44
".toList, .arrive 2, .written, .arrive 2, .finish]

theorem link_ownReplies_pausedLink : OwnReplies
    (Txn.after LinkOp.run pausedLink (openedLink .bluetooth)) :=
  link_ownReplies .bluetooth pausedLink
    (Txn.throughout_of_checks (by decide +kernel))

/-- The codes are read, in vain, and cleared; then the reply to the reading
arrives. -/
def hastyLink : List LinkOp :=
  [.send "03".toList, .send "04".toList, .start, .timeout 0, .finish, .start,
    .answer "43 01 33 00 00 00 00
".toList, .arrive 40, .finish]

/-- The clearing is taken for done though the adapter has not answered it. -/
theorem link_takesAnothersReply : ¬ ∀ ops : List LinkOp,
    OwnReplies (Txn.after LinkOp.run ops (openedLink .wifi)) := by
  intro own
  have resolved : (Txn.after LinkOp.run hastyLink
      (openedLink .wifi)).resolved =
        [(1, "43 01 33 00 00 00 00".toList)] := by
    decide +kernel
  have replies : ((Txn.after LinkOp.run hastyLink
      (openedLink .wifi)).replies.all fun reply => reply.1 != 1) = true := by
    decide +kernel
  obtain ⟨cmd, text, -, there, -⟩ := (own hastyLink).own 1 _
    (by rw [resolved]; exact List.mem_cons_self)
  have other := List.all_eq_true.mp replies _ there
  cases other

end Obd

end Mousstec
