import Kademlia.Address
import Kademlia.Digest.Crc32c
/-!
# Write tokens

A token is the checksum of the requester's IP address and a secret. The secret before the current
one is still accepted, so a token is good until its secret was replaced twice.
-/

namespace Kademlia.Storage

/-- The current secret, the one before it, and when it became current, in milliseconds. -/
structure TokenMint where
  previous : Bytes
  current : Bytes
  updated : Nat

/-- The age in milliseconds beyond which the current secret is replaced. -/
def rotationInterval : Nat := 300000

/-- The number of octets of a secret. -/
def secretSize : Nat := 20

/-- The token of an IP address under a secret. -/
def tokenOf (ip : Ip) (secret : Bytes) : Bytes :=
  Bytes.ofNat 4 (Crc32c.checksum (ip.octets ++ secret)).toNat

namespace TokenMint

/-- The token for a requester. -/
def mint (m : TokenMint) (requester : Address) : Bytes :=
  tokenOf requester.ip m.current

/-- Is this a token for the requester under either secret? -/
def accepts (m : TokenMint) (requester : Address) (token : Bytes) : Bool :=
  token == tokenOf requester.ip m.current || token == tokenOf requester.ip m.previous

/-- Is the current secret too old? -/
def isStale (m : TokenMint) (now : Nat) : Bool :=
  rotationInterval < now - m.updated

/-- Make `secret` the current one. -/
def rotate (m : TokenMint) (now : Nat) (secret : Bytes) : TokenMint :=
  ⟨m.current, secret, now⟩

/-- The text of a mint, which gives nothing away. -/
def text (_ : TokenMint) : String :=
  "Tokens (_)"

end TokenMint

end Kademlia.Storage
