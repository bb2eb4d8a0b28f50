import Kademlia.Exchange.Session
/-!
# The multiplexer

One socket shared by the sessions with many addresses. Datagrams go to the session of their sender
and to no other. Sessions are made on demand and forgotten once they are idle. Datagrams that were
sent wait in the outbox, and replies that were given wait for the holder of their ticket.
-/

namespace Kademlia.Exchange

open Bencode Wire

/-- The longest datagram that is read; what is beyond is cut off. -/
def maxRead : Nat := 2048

/-- The longest response sent when nothing else is asked for. -/
def defaultMaxPacket : Nat := 1472

/-- The sessions of one socket. -/
structure Multiplexer where
  /-- The address of the socket. -/
  own : Address
  timeout : Nat
  maxPacket : Nat
  /-- At most one session for each address. -/
  sessions : List Session
  /-- All smaller tickets are given out. -/
  nextTicket : Ticket
  entropy : Entropy
  /-- What was sent, the earliest first. -/
  outbox : List Datagram
  /-- Replies that nobody took yet. -/
  delivered : List Delivery

/-- What the holder of a ticket finds. -/
inductive Poll where
  /-- The reply. -/
  | ready (reply : Reply)
  /-- Nothing yet. -/
  | waiting
  /-- Nothing any more. -/
  | gone

namespace Multiplexer

/-- No session. -/
def new (own : Address) (timeout maxPacket : Nat) (entropy : Entropy) : Multiplexer :=
  { own, timeout, maxPacket, sessions := [], nextTicket := 0, entropy, outbox := [], delivered := [] }

/-- Is this the own address, in whatever zone? An own address that stands for any also has all
loopback addresses. -/
def isSelf (m : Multiplexer) (address : Address) : Bool :=
  address.port == m.own.port &&
    if m.own.ip.isUnspecified then address.ip.isLoopback || address.ip.isUnspecified
    else address.ip.octets == m.own.ip.octets

/-- How many replies are waited for. -/
def pending (m : Multiplexer) : Nat :=
  (m.sessions.flatMap (·.pending)).length

/-- The session with an address, a new one if there is none. -/
def session (m : Multiplexer) (address : Address) : Session :=
  (m.sessions.find? fun s => s.address = address).getD (.new address m.timeout)

/-- Put a session in the place of the one with its address. -/
def setSession (m : Multiplexer) (s : Session) : Multiplexer :=
  { m with sessions := s :: m.sessions.filter fun t => t.address ≠ s.address }

/-- Add what an operation sent and gave. -/
def record (m : Multiplexer) (traffic : Traffic) : Multiplexer :=
  { m with outbox := m.outbox ++ traffic.sent, delivered := m.delivered ++ traffic.delivered }

/-- Take what was sent. -/
def takeOutbox (m : Multiplexer) : List Datagram × Multiplexer :=
  (m.outbox, { m with outbox := [] })

/-- A new ticket. -/
def takeTicket (m : Multiplexer) : Ticket × Multiplexer :=
  (m.nextTicket, { m with nextTicket := m.nextTicket + 1 })

/-- A ticket that has failed already. -/
def reject (m : Multiplexer) (error : CallError) : Ticket × Multiplexer :=
  let (ticket, m) := m.takeTicket
  (ticket, m.record ⟨[], [⟨ticket, .error error⟩]⟩)

/-- Send a request at `now`. -/
def request (m : Multiplexer) (transport : Transport) (address : Address) (method : String)
    (arguments : Dict) (now : Nat) : Ticket × Multiplexer :=
  if m.isSelf address then m.reject (.selfConnection address)
  else
    let (ticket, m) := m.takeTicket
    let (s, traffic, entropy) :=
      (m.session address).request transport m.entropy ticket method arguments now
    (ticket, ({ m with entropy }.setSession s).record traffic)

/-- Take in a datagram. One from port zero, from the own address, or without a message is dropped. -/
def handleDatagram {σ : Type} (m : Multiplexer) (transport : Transport) (respond : Responder σ)
    (d : Datagram) (state : σ) : Multiplexer × σ :=
  if d.peer.port = 0 ∨ m.isSelf d.peer then (m, state)
  else
    match Message.decode d.bytes with
    | .error _ => (m, state)
    | .ok message =>
      let (s, traffic, state) :=
        (m.session d.peer).handle transport respond m.maxPacket message state
      ((m.setSession s).record traffic, state)

/-- Take in a datagram as far as it is read. -/
def receive {σ : Type} (m : Multiplexer) (transport : Transport) (respond : Responder σ)
    (d : Datagram) (state : σ) : Multiplexer × σ :=
  m.handleDatagram transport respond { d with bytes := d.bytes.take maxRead } state

/-- End the transactions whose deadline has come, and forget idle sessions. -/
def expire (m : Multiplexer) (now : Nat) : Multiplexer :=
  let steps := m.sessions.map fun s => s.expire now
  { m with
    sessions := (steps.map (·.1)).filter fun s => !s.isIdle
    delivered := m.delivered ++ steps.flatMap fun step => step.2.delivered }

/-- End and forget the session with an address. -/
def reset (m : Multiplexer) (address : Address) : Multiplexer :=
  let (ended, rest) := m.sessions.partition fun s => s.address = address
  { m with sessions := rest, delivered := m.delivered ++ ended.flatMap fun s => s.pending.stop }

/-- End and forget all sessions. -/
def stop (m : Multiplexer) : Multiplexer :=
  { m with sessions := [], delivered := m.delivered ++ m.sessions.flatMap fun s => s.pending.stop }

/-- Look for the reply to a ticket, and take it if it is there. -/
def collect (m : Multiplexer) (ticket : Ticket) : Poll × Multiplexer :=
  match m.delivered.find? fun d => d.ticket == ticket with
  | some d => (.ready d.reply, { m with delivered := m.delivered.eraseP fun d => d.ticket == ticket })
  | none => if m.sessions.any fun s => s.pending.holds ticket then (.waiting, m) else (.gone, m)

end Multiplexer

end Kademlia.Exchange
