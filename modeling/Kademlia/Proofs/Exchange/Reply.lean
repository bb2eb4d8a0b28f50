import Kademlia.Proofs.Exchange.Step
import Kademlia.Proofs.Wire.Datagram

/-!
# One reply for each request

A session answers a request with one datagram, whatever the handlers do. It names the transaction of
the request and says what the handlers said, as far as there is room. It is a response or an error,
and a session that reads one of these sends nothing, so two nodes cannot keep each other busy.
-/

namespace Kademlia.Exchange

open Bencode Wire Service

namespace Session

/-- What a requester reads for an answer of the handlers: their error, the text of a failure, or
their payload. A payload that is too long comes with a front part of its values, or there is an
error in its place that says how long the response was. -/
inductive Reports (transaction : Bytes) (maxPacket : Nat) : Answer → Body → Prop where
  | protocol (error : ProtocolError) :
      Reports transaction maxPacket (.error (.protocol error)) (.error error)
  | failure (text : String) :
      Reports transaction maxPacket (.error (.failure text)) (.error ⟨201, text⟩)
  | crash : Reports transaction maxPacket (.error .crash) (.error ⟨201, "internal error"⟩)
  | whole {payload : Dict}
      (hfits : (Message.mk transaction (some version) (.response payload)).encode.length ≤
        maxPacket) :
      Reports transaction maxPacket (.ok payload) (.response payload)
  | shortened {payload : Dict} {values : List Value} (n : Nat)
      (hlong : maxPacket <
        (Message.mk transaction (some version) (.response payload)).encode.length)
      (hvalues : payload.get? Key.values = some (.list values)) :
      Reports transaction maxPacket (.ok payload)
        (.response (payload.insert Key.values (.list (values.take n))))
  | tooLong {payload : Dict}
      (hlong : maxPacket <
        (Message.mk transaction (some version) (.response payload)).encode.length) :
      Reports transaction maxPacket (.ok payload) (.error (.responseTooLong
        (Message.mk transaction (some version) (.response payload)).encode.length))

variable {transaction : Bytes} {maxPacket : Nat} {answer : Answer} {body : Body}

/-- Whatever the handlers answered, the datagram is a message that reports it. -/
lemma exists_reports (transaction : Bytes) (answer : Answer) (maxPacket : Nat) :
    ∃ body, Reports transaction maxPacket answer body ∧
      reply transaction answer maxPacket = (Message.mk transaction (some version) body).encode := by
  unfold reply
  cases answer with
  | error reason =>
    rcases Message.encodeWithin_cases ⟨transaction, some version, .error reason.toProtocol⟩ maxPacket
      with ⟨heq, -⟩ | ⟨_, hbody, -⟩
    · refine ⟨.error reason.toProtocol, ?_, heq⟩
      cases reason with
      | protocol error => exact .protocol error
      | failure text => exact .failure text
      | crash => exact .crash
    · simp at hbody
  | ok payload =>
    rcases Message.encodeWithin_cases ⟨transaction, some version, .response payload⟩ maxPacket
      with ⟨heq, hfits⟩ | ⟨_, hbody, hlong, ⟨values, n, hvalues, heq⟩ | heq⟩
    · exact ⟨_, .whole (hfits payload rfl), heq⟩
    · obtain rfl := Body.response.inj hbody
      exact ⟨_, .shortened n hlong hvalues, heq⟩
    · exact ⟨_, .tooLong hlong, heq⟩

/-- What reports an answer is a response or an error. -/
lemma Reports.eq_response_or_error (h : Reports transaction maxPacket answer body) :
    (∃ payload, body = .response payload) ∨ ∃ error, body = .error error := by
  cases h with
  | protocol error => exact .inr ⟨error, rfl⟩
  | failure text => exact .inr ⟨_, rfl⟩
  | crash => exact .inr ⟨_, rfl⟩
  | whole hfits => exact .inl ⟨_, rfl⟩
  | shortened n hlong hvalues => exact .inl ⟨_, rfl⟩
  | tooLong hlong => exact .inr ⟨_, rfl⟩

/-- What reports an answer is read back from its datagram. -/
lemma Reports.decode (h : Reports transaction maxPacket answer body)
    (hsize : (Message.mk transaction (some version) body).encode.length < UInt64.size) :
    Message.decode (Message.mk transaction (some version) body).encode =
      .ok ⟨transaction, some version, body⟩ := by
  refine (Message.decode_encode hsize fun type htype => ?_)
  rcases h.eq_response_or_error with ⟨payload, rfl⟩ | ⟨error, rfl⟩
  · cases htype
  · cases htype

/-- A message other than a request is not shown to the handlers and not answered. -/
lemma handle_of_no_request {σ : Type} (s : Session) (transport : Transport)
    (respond : Responder σ) (maxPacket : Nat) {m : Message} (hm : ∀ query, m.body ≠ .request query)
    (state : σ) :
    (s.handle transport respond maxPacket m state).2.1.sent = [] ∧
      (s.handle transport respond maxPacket m state).2.2 = state ∧
      ∀ other : Responder σ, s.handle transport other maxPacket m state =
        s.handle transport respond maxPacket m state := by
  obtain ⟨answer, hanswer⟩ : ∃ answer, replyOf s.address m = some answer := by
    rw [← Option.ne_none_iff_exists']
    intro hnone
    obtain ⟨query, hquery⟩ := exists_query hnone
    exact hm query hquery
  rw [handle_of_reply s transport respond maxPacket hanswer state]
  refine ⟨rfl, rfl, fun other => ?_⟩
  exact handle_of_reply s transport other maxPacket hanswer state

/-- One reply for each request, and none for anything else. A request is handed to the handlers,
leaves the transactions alone, and is answered by one datagram to its sender, if the transport takes
it. The datagram is read as a message with the transaction of the request that reports the answer;
for a payload it is the one that is cut to the limit. No session that reads it sends anything. Other
messages do not reach the handlers and are not answered. The only bound is that 64 bits count the
octets of the datagram. -/
theorem answers_each_request {σ : Type} (s : Session) (transport : Transport)
    (respond : Responder σ) (maxPacket : Nat) (m : Message) (state : σ)
    (hsize : ∀ query, m.body = .request query →
      (reply m.transaction (respond s.address query state).1 maxPacket).length < UInt64.size) :
    (∀ query, m.body = .request query →
      ∃ bytes body, Reports m.transaction maxPacket (respond s.address query state).1 body ∧
        Message.decode bytes = .ok ⟨m.transaction, some version, body⟩ ∧
        (transport s.address = none → s.handle transport respond maxPacket m state =
          (s, ⟨[⟨s.address, bytes⟩], []⟩, (respond s.address query state).2)) ∧
        (∀ reason, transport s.address = some reason →
          s.handle transport respond maxPacket m state =
            (s, ⟨[], []⟩, (respond s.address query state).2)) ∧
        (∀ payload, (respond s.address query state).1 = .ok payload →
          bytes = Message.encodeWithin ⟨m.transaction, some version, .response payload⟩ maxPacket) ∧
        ∀ {τ : Type} (s' : Session) (transport' : Transport) (respond' : Responder τ) (limit : Nat)
          (state' : τ) (message : Message), Message.decode bytes = .ok message →
          (s'.handle transport' respond' limit message state').2.1.sent = [] ∧
          (s'.handle transport' respond' limit message state').2.2 = state') ∧
    ((∀ query, m.body ≠ .request query) →
      (s.handle transport respond maxPacket m state).2.1.sent = [] ∧
      (s.handle transport respond maxPacket m state).2.2 = state ∧
      ∀ other : Responder σ, s.handle transport other maxPacket m state =
        s.handle transport respond maxPacket m state) := by
  constructor
  · intro query hquery
    obtain ⟨body, hreports, hbytes⟩ :=
      exists_reports m.transaction (respond s.address query state).1 maxPacket
    have hdecode := hreports.decode (hbytes ▸ hsize query hquery)
    refine ⟨_, body, hreports, hbytes ▸ hdecode, ?_, ?_, ?_, ?_⟩
    · intro hopen
      simp only [handle, hquery, hopen]
    · intro reason hclosed
      simp only [handle, hquery, hclosed]
    · intro payload hpayload
      rw [hpayload]
      rfl
    · intro τ s' transport' respond' limit state' message hmessage
      rw [hbytes, hdecode] at hmessage
      obtain rfl := Except.ok.inj hmessage
      have hreply : ∀ query, body ≠ .request query := by
        rintro query rfl
        rcases hreports.eq_response_or_error with ⟨_, hbody⟩ | ⟨_, hbody⟩
        · cases hbody
        · cases hbody
      obtain ⟨hsent, hstate, -⟩ := handle_of_no_request s' transport' respond' limit
        (m := ⟨m.transaction, some version, body⟩) hreply state'
      exact ⟨hsent, hstate⟩
  · intro hm
    exact handle_of_no_request s transport respond maxPacket hm state

/-- A session that waits for a reply while a request comes in. -/
def waiting : Session :=
  ⟨⟨.v4 10 0 0 1, 6881⟩, 2000, [⟨[1], 0, "ping", 2000⟩], false⟩

/-- Handlers that count the requests they broke down on. -/
def breaking : Responder Nat :=
  fun _ _ requests => (.error .crash, requests + 1)

/-- A request for values. -/
def asking : Message :=
  ⟨[1], none, .request ⟨"get_value", .build []⟩⟩

theorem answers_each_request_crash :
    (∀ query, asking.body = .request query →
      (reply asking.transaction (breaking waiting.address query 0).1 1472).length < UInt64.size) ∧
    ∃ bytes, Message.decode bytes = .ok ⟨[1], some version, .error ⟨201, "internal error"⟩⟩ ∧
      waiting.handle (fun _ => none) breaking 1472 asking 0 =
        (waiting, ⟨[⟨waiting.address, bytes⟩], []⟩, 1) := by
  have hsize : ∀ query, asking.body = .request query →
      (reply asking.transaction (breaking waiting.address query 0).1 1472).length <
        UInt64.size := by
    intro query _
    show (reply [1] (.error .crash) 1472).length < UInt64.size
    cbv
  obtain ⟨hrequest, -⟩ :=
    answers_each_request waiting (fun _ => none) breaking 1472 asking 0 hsize
  obtain ⟨bytes, body, hreports, hdecode, hsent, -⟩ := hrequest ⟨"get_value", .build []⟩ rfl
  have hbody : body = .error ⟨201, "internal error"⟩ := by
    cases hreports
    rfl
  refine ⟨hsize, bytes, ?_, hsent rfl⟩
  rw [← hbody]
  exact hdecode

end Session

end Kademlia.Exchange
