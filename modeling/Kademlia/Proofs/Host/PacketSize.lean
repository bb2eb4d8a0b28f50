import Kademlia.Proofs.Host.Serving
import Kademlia.Proofs.Service.Bounds

/-!
# The size of replies

A host answers a request with a datagram that is no longer than the limit it was set up with, unless it
is an error. An error is sent as it is. It repeats the name of the transaction, and that of a method
which is not known, so it is longer than the limit only for a requester who chose these long.
-/

namespace Kademlia

open Bencode Wire Exchange Service

/-! ### Replies -/

/-- How the datagram that answers a request for a transaction keeps to a limit. -/
inductive Exchange.Keeps (limit : Nat) (transaction : Bytes) (method : String) (bytes : Bytes) :
    Prop where
  | within (hle : bytes.length ≤ limit)
  /-- An error whose text is short. -/
  | error (e : ProtocolError)
      (heq : bytes = (Message.mk transaction (some version) (.error e)).encode)
      (hle : bytes.length ≤ transaction.length + 141)
  /-- The error that repeats the name of a method that no server knows. -/
  | unknown (hmethod : method ∉ requiredMethods)
      (heq : bytes = (Message.mk transaction (some version) (.error (.methodUnknown method))).encode)
      (hle : bytes.length ≤ transaction.length + method.utf8ByteSize + 55)

namespace Exchange.Keeps

variable {limit room : Nat} {transaction : Bytes} {method : String}

/-- A datagram is within the limit unless the requester chose long names. -/
lemma length_le {bytes : Bytes} (h : Keeps limit transaction method bytes)
    (htransaction : transaction.length + 141 ≤ limit)
    (hmethod : method ∈ requiredMethods ∨
      transaction.length + method.utf8ByteSize + 55 ≤ limit) : bytes.length ≤ limit := by
  cases h with
  | within hle => exact hle
  | error e heq hle => exact hle.trans htransaction
  | unknown hunknown heq hle => exact hle.trans (hmethod.resolve_left hunknown)

/-- An error is sent as it is. -/
lemma reply_error (transaction : Bytes) (e : HandlerError) (limit : Nat) :
    Session.reply transaction (.error e) limit =
      (Message.mk transaction (some version) (.error e.toProtocol)).encode := by
  unfold Session.reply Message.encodeWithin Message.encodeWithinFrom
  exact ite_self _

/-- The text that says how long a response was is short. -/
lemma size_responseTooLong {n : Nat} (hn : n < 10 ^ 24) :
    (ProtocolError.responseTooLong n).description.utf8ByteSize ≤ 43 := by
  have hlength := size_toString_le (by decide) hn
  have hopen : "response was ".utf8ByteSize = 13 := rfl
  have hclose : " bytes".utf8ByteSize = 6 := rfl
  show ("response was " ++ toString n ++ " bytes").utf8ByteSize ≤ 43
  simp only [String.utf8ByteSize_append]
  omega

lemma of_short {answer : Answer} (hshort : answer.Short room) (hroom : room < 10 ^ 23)
    (htransaction : transaction.length ≤ maxRead) :
    Keeps limit transaction method (Session.reply transaction answer limit) := by
  have ht : transaction.length < 10 ^ 4 := htransaction.trans_lt (by decide)
  cases answer with
  | error e =>
    obtain ⟨husual, hsize⟩ := hshort
    refine .error e.toProtocol (reply_error transaction e limit) ?_
    have hle := Message.length_encode_error_le husual ht (show 0 < 3 by decide) (by omega)
    rw [reply_error]
    omega
  | ok payload =>
    rcases Message.length_encodeWithin (m := ⟨transaction, some version, .response payload⟩) rfl limit
      with hle | heq
    · exact .within hle
    · refine .error _ heq ?_
      have hpayload : payload.toValue.encode.length ≤ room := hshort
      have hbytes := length_encodeBytes_le transaction
      have hlength := Message.length_encode_response transaction payload
      generalize (Message.mk transaction (some version) (.response payload)).encode.length = n
        at heq hlength
      have hlong := size_responseTooLong (show n < 10 ^ 24 by omega)
      have hle := Message.length_encode_error_le (e := .responseTooLong n)
        (ProtocolError.usual_mk _ (by decide)) ht (show 0 < 2 by decide) (by omega)
      show (Message.encodeWithin _ limit).length ≤ _
      rw [heq]
      show (Message.mk transaction (some version) (.error (.responseTooLong n))).encode.length ≤ _
      omega

lemma of_unknown (hmethod : method ∉ requiredMethods) (hsize : method.utf8ByteSize ≤ maxRead)
    (htransaction : transaction.length ≤ maxRead) :
    Keeps limit transaction method
      (Session.reply transaction (.error (.protocol (.methodUnknown method))) limit) := by
  have ht : transaction.length < 10 ^ 4 := htransaction.trans_lt (by decide)
  have htext : (ProtocolError.methodUnknown method).description.utf8ByteSize =
      method.utf8ByteSize + 15 := by
    have hopen : "unknown method ".utf8ByteSize = 15 := rfl
    show ("unknown method " ++ method).utf8ByteSize = _
    rw [String.utf8ByteSize_append, hopen, Nat.add_comm]
  have hread : maxRead = 2048 := rfl
  refine .unknown hmethod (reply_error transaction _ limit) ?_
  have hle := Message.length_encode_error_le (e := .methodUnknown method)
    (ProtocolError.usual_mk _ (by decide)) ht (show 0 < 4 by decide) (by omega)
  rw [reply_error]
  show (Message.mk transaction (some version) (.error (.methodUnknown method))).encode.length ≤ _
  omega

end Exchange.Keeps

/-! ### Lives -/

namespace Host.Life

variable {bounds : Service.Settings}

lemma lasting_bounded (hvalues : bounds.maxValues < UInt64.size) :
    Lasting (ValueService.Bounded bounds maxRead) where
  handle now context query state hquery hstate :=
    (hstate.handle (by decide) (hvalues.trans (by decide)) now context hquery).1
  localValues key _ hstate := hstate.localValues key

/-- Replies keep to the limit. In every life of a host with a value service, a datagram that is taken
in is answered by at most one, which goes back to its sender, and only if it is read as a request. The
answer is no longer than the limit, or it is an error: the one that repeats the name of a method other
than the five, or one that has at most 141 octets besides the name of the transaction. So it is within
the limit unless these names take almost all the octets that there may be. -/
theorem replies_keep_to_limit (bounds : Service.Settings) (hk : bounds.k < UInt64.size)
    (hvalues : bounds.maxValues < UInt64.size) (settings : Settings) (now : Nat)
    (entropy serverEntropy : Entropy) (transport₀ : Transport) (ops : List Operation)
    (transport : Transport) (serverClock : Nat) (d : Datagram) :
    let h := ((start settings (ValueService.start bounds now serverEntropy) entropy
      transport₀).after ops).host
    let h' := h.receive transport serverClock d
    h'.multiplexer.outbox = h.multiplexer.outbox ∨
    ∃ m query bytes, Message.decode (d.bytes.take maxRead) = .ok m ∧ m.body = .request query ∧
      h'.multiplexer.outbox = h.multiplexer.outbox ++ [⟨d.peer, bytes⟩] ∧
      Keeps settings.maxPacket m.transaction query.method bytes ∧
      (m.transaction.length + 141 ≤ settings.maxPacket →
        (query.method ∈ requiredMethods ∨
          m.transaction.length + query.method.utf8ByteSize + 55 ≤ settings.maxPacket) →
        bytes.length ≤ settings.maxPacket) := by
  intro h h'
  have hserves : h.Serves (ValueService.Bounded bounds maxRead) settings.maxPacket :=
    serves_after (lasting_bounded hvalues)
      (serves_start (ValueService.bounded_start bounds maxRead now serverEntropy) entropy transport₀)
      ops
  rcases h.multiplexer.handleDatagram_cases transport (respond serverClock)
    { d with bytes := d.bytes.take maxRead } (h.table, h.server) with
    hdrop | ⟨-, m, hm, ⟨query, hquery, -, -, -, hsent | hsent⟩ | ⟨reply, -, -, hsent, -⟩⟩
  · exact .inl (congrArg (fun step => step.1.outbox) hdrop)
  · exact .inl hsent
  · suffices hkeeps : Keeps settings.maxPacket m.transaction query.method _ from
      .inr ⟨m, query, _, hm, hquery, hsent, hkeeps, hkeeps.length_le⟩
    have hread := List.length_take_le maxRead d.bytes
    obtain ⟨htransaction, hsizes⟩ := Message.length_of_decode hm
    obtain ⟨hmethod, harguments⟩ := hsizes query hquery
    rw [(server_respond serverClock _ query h.table h.server).1, hserves.maxPacket]
    obtain ⟨-, hshort | ⟨hunknown, hanswer⟩⟩ := hserves.server.handle (by decide)
      (hvalues.trans (by decide)) serverClock ⟨d.peer, h.table⟩ (harguments.trans hread)
    · refine .of_short hshort ?_ (htransaction.trans hread)
      have hsize : UInt64.size = 18446744073709551616 := rfl
      unfold Service.Settings.room maxRead
      omega
    · show Keeps _ _ _ (Session.reply m.transaction (ValueService.handle _ _ _ _).1 _)
      rw [hanswer]
      exact .of_unknown hunknown (hmethod.trans hread) (htransaction.trans hread)
  · exact .inl hsent

/-- A ping of node 1. -/
def greeting : Message :=
  ⟨[1], none, .request ⟨Method.ping, Acquainted.introduction 1⟩⟩

/-- A ping is answered, within the limit. -/
theorem replies_keep_to_limit_greeting :
    Service.Settings.standard.k < UInt64.size ∧ Service.Settings.standard.maxValues < UInt64.size ∧
    ∃ bytes, (Acquainted.life.host.receive Acquainted.transport 0
        ⟨(Acquainted.node 1).address, greeting.encode⟩).multiplexer.outbox =
          [⟨(Acquainted.node 1).address, bytes⟩] ∧
      bytes.length ≤ Acquainted.settings.maxPacket := by
  have hk : Service.Settings.standard.k < UInt64.size := by decide
  have hvalues : Service.Settings.standard.maxValues < UInt64.size := by decide
  have hsize : greeting.encode.length ≤ maxRead := by decide +kernel
  have hread : Message.decode (greeting.encode.take maxRead) = .ok greeting := by
    rw [List.take_of_length_le hsize]
    exact Message.decode_encode (hsize.trans_lt (by decide)) nofun
  have hanswered : (Acquainted.life.host.receive Acquainted.transport 0
      ⟨(Acquainted.node 1).address, greeting.encode⟩).multiplexer.outbox.length = 1 := by
    decide +kernel
  refine ⟨hk, hvalues, ?_⟩
  rcases replies_keep_to_limit .standard hk hvalues Acquainted.settings 0 Acquainted.entropy
    Acquainted.entropy Acquainted.transport [] Acquainted.transport 0
    ⟨(Acquainted.node 1).address, greeting.encode⟩ with
    hnone | ⟨m, query, bytes, hm, hquery, hsent, -, hle⟩
  · exact absurd (hanswered.symm.trans (congrArg List.length hnone)) (by decide)
  · obtain rfl := Except.ok.inj (hread.symm.trans hm)
    obtain rfl := Body.request.inj hquery
    exact ⟨bytes, hsent, hle (by decide) (.inl (by decide))⟩

namespace Overlong

/-- The name of a method, a zero `n` times. -/
def method (n : Nat) : String :=
  String.ofList (List.replicate n '0')

def query (n : Nat) : Query :=
  ⟨method n, Acquainted.introduction 1⟩

def request (n : Nat) : Message :=
  ⟨[1], none, .request (query n)⟩

variable {n : Nat}

lemma size_method (n : Nat) : (method n).utf8ByteSize = n := by
  rw [method, String.utf8ByteSize_ofList, utf8Len_of_digits, List.length_replicate]
  intro c hc
  rw [List.eq_of_mem_replicate hc]
  rfl

lemma length_request_le (n : Nat) (hn : n < 10 ^ 4) : (request n).encode.length ≤ n + 73 := by
  have hkeys : (encodeBytes Key.a).length = 3 ∧ (encodeBytes Key.q).length = 3 ∧
      (encodeBytes Key.t).length = 3 ∧ (encodeBytes Key.y).length = 3 ∧
      (encodeBytes [1]).length = 3 := by decide
  have hdigits := Decimal.length_ofNat_le (by decide) hn
  have harguments : (Acquainted.introduction 1).toValue.encode.length ≤ 48 :=
    length_idDict (Acquainted.node 1).id
  obtain ⟨ha, hq, ht, hy, hone⟩ := hkeys
  rw [Message.encode, Message.toValue, Value.length_encode_dict]
  simp only [request, query, Body.entries, Body.type, Option.map_none, Option.toList_none,
    List.append_nil, List.map_append, List.map_cons, List.map_nil, List.sum_append, List.sum_cons,
    List.sum_nil, length_encodeEntry, Value.encode_bytes, length_encodeBytes_eq (Utf8.encode _),
    Utf8.length_encode, size_method]
  omega

lemma handler?_method (hn : 11 < n) : ValueService.registry.handler? (method n) = none := by
  have hne {name : String} (hname : name.utf8ByteSize ≤ 11) : name ≠ method n := by
    rintro rfl
    rw [size_method] at hname
    omega
  simp only [ValueService.registry, Registry.handler?_register]
  rw [if_neg (hne (by decide)), if_neg (hne (by decide)), if_neg (hne (by decide)),
    if_neg (hne (by decide)), if_neg (hne (by decide))]
  rfl

/-- The error for a method whose name is a zero `n` times. -/
lemma length_reply (n : Nat) :
    n < (Message.mk [1] (some version) (.error (.methodUnknown (method n)))).encode.length := by
  have htext : (ProtocolError.methodUnknown (method n)).description.utf8ByteSize =
      "unknown method ".utf8ByteSize + n := by
    show ("unknown method " ++ method n).utf8ByteSize = _
    rw [String.utf8ByteSize_append, size_method]
  rw [Message.length_encode_error, length_encodeBytes_eq (Utf8.encode _), Utf8.length_encode, htext]
  omega

end Overlong

/-- A host that was just set up answers a request of fewer than 2048 octets with more than the 1472 it
was set up with, if the method has a long name. -/
theorem unknown_method_exceeds_limit :
    (Overlong.request 1500).encode.length ≤ maxRead ∧ Acquainted.settings.maxPacket = 1472 ∧
    ∃ bytes, (Acquainted.life.host.receive Acquainted.transport 0
        ⟨(Acquainted.node 1).address, (Overlong.request 1500).encode⟩).multiplexer.outbox =
          [⟨(Acquainted.node 1).address, bytes⟩] ∧
      1472 < bytes.length := by
  have hlength := Overlong.length_request_le 1500 (by decide)
  have hread : (Overlong.request 1500).encode.length ≤ maxRead := hlength.trans (by decide)
  have hdecode : Message.decode ((Overlong.request 1500).encode.take maxRead) =
      .ok (Overlong.request 1500) := by
    rw [List.take_of_length_le hread]
    exact Message.decode_encode (hread.trans_lt (by decide)) nofun
  have hsent := outbox_receive_of_request Acquainted.life.host Acquainted.transport 0
    (d := ⟨(Acquainted.node 1).address, (Overlong.request 1500).encode⟩) (by decide) (by decide) rfl
    hdecode rfl
  refine ⟨hread, rfl, _, hsent, ?_⟩
  have hanswer : (Server.handle 0 ⟨(Acquainted.node 1).address, Acquainted.life.host.table⟩
      (Overlong.query 1500) Acquainted.life.host.server).1 =
        .error (.protocol (.methodUnknown (Overlong.method 1500))) := by
    show (ValueService.handle _ _ _ _).1 = _
    unfold ValueService.handle
    dsimp only [Overlong.query]
    rw [Overlong.handler?_method (by decide)]
  rw [hanswer, Keeps.reply_error]
  exact (show 1472 < 1500 by decide).trans (Overlong.length_reply 1500)

end Host.Life

end Kademlia
