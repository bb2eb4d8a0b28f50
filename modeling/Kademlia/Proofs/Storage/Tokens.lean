import Kademlia.Proofs.Digest.Crc32c
import Kademlia.Proofs.Distance
import Kademlia.Storage.TokenMint

/-!
# What a token depends on

The secret comes last in the message of which a token is the checksum, so it does the same to the
checksums of all addresses of a family: the exclusive or of two tokens under one secret is that under any
other. With one token and no secret, the token of another address is known. Still the tokens of two
addresses of four octets differ, since the checksum loses nothing of a difference of that size.
-/

namespace Kademlia

namespace Bytes

lemma toNat_append_singleton (bs : Bytes) (b : UInt8) : toNat (bs ++ [b]) = toNat bs * 256 + b.toNat := by
  rw [toNat, List.foldl_append]
  rfl

lemma toNat_ofNat (width n : Nat) : toNat (ofNat width n) = n % 256 ^ width := by
  induction width generalizing n with
  | zero => rw [pow_zero, Nat.mod_one]; rfl
  | succ width ih =>
    have hoctet : (UInt8.ofNat (n % 256)).toNat = n % 256 :=
      UInt8.toNat_ofNat_of_lt' (Nat.mod_lt _ (by decide))
    rw [ofNat, toNat_append_singleton, ih, hoctet, pow_succ', Nat.mod_mul]
    ring

end Bytes

namespace Storage

/-! ### Checksums as tokens -/

lemma toNat_ofNat_word (c : BitVec 32) : Bytes.toNat (Bytes.ofNat 4 c.toNat) = c.toNat := by
  rw [Bytes.toNat_ofNat]
  exact Nat.mod_eq_of_lt c.isLt

lemma ofNat_word_inj {c c' : BitVec 32} :
    Bytes.ofNat 4 c.toNat = Bytes.ofNat 4 c'.toNat ↔ c = c' := by
  refine ⟨fun h => BitVec.eq_of_toNat_eq ?_, fun h => h ▸ rfl⟩
  rw [← toNat_ofNat_word c, h, toNat_ofNat_word]

lemma xor_ofNat_word (c c' : BitVec 32) :
    Bytes.xor (Bytes.ofNat 4 c.toNat) (Bytes.ofNat 4 c'.toNat) = Bytes.ofNat 4 (c ^^^ c').toNat := by
  have hlen : (Bytes.ofNat 4 c.toNat).length = (Bytes.ofNat 4 c'.toNat).length := by simp
  refine Bytes.toNat_injective (by simp) ?_
  rw [Bytes.toNat_xor hlen, toNat_ofNat_word, toNat_ofNat_word, toNat_ofNat_word, BitVec.toNat_xor]

/-! ### Addresses of one family -/

variable {a b : Ip}

lemma length_octets (ip : Ip) : ip.octets.length = if ip.isV4 then 4 else 16 := by
  cases ip with
  | v4 => rfl
  | v6 groups zone =>
    have hconstant : (fun g : UInt16 => [(g >>> 8).toUInt8, g.toUInt8].length) = fun _ => 2 := rfl
    rw [Ip.octets, List.length_flatMap, hconstant, List.map_const', List.sum_replicate]
    simp [Ip.isV4]

lemma octets_inj (ha : a.isV4 = true) (hb : b.isV4 = true) : a.octets = b.octets ↔ a = b := by
  cases a with
  | v6 => cases ha
  | v4 =>
    cases b with
    | v6 => cases hb
    | v4 => simp [Ip.octets]

lemma tokenOf_inj (ha : a.isV4 = true) (hb : b.isV4 = true) (secret : Bytes) :
    tokenOf a secret = tokenOf b secret ↔ a = b := by
  have hlena : a.octets.length = 4 := by rw [length_octets, if_pos ha]
  have hlenb : b.octets.length = 4 := by rw [length_octets, if_pos hb]
  rw [tokenOf, tokenOf, ofNat_word_inj,
    Crc32c.checksum_append_inj (hlena.trans hlenb.symm) hlena.le, octets_inj ha hb]

/-- The secret only decides by which power of `X` the difference is multiplied, and that by its length. -/
lemma xor_tokenOf_congr (h : a.isV4 = b.isV4) {secret secret' : Bytes}
    (hsecret : secret.length = secret'.length) :
    Bytes.xor (tokenOf a secret) (tokenOf b secret) =
      Bytes.xor (tokenOf a secret') (tokenOf b secret') := by
  have hlen : a.octets.length = b.octets.length := by rw [length_octets, length_octets, h]
  rw [tokenOf, tokenOf, tokenOf, tokenOf, xor_ofNat_word, xor_ofNat_word, ofNat_word_inj]
  refine Crc32c.ofReflected_injective ?_
  rw [Crc32c.xor_checksum_append hlen, Crc32c.xor_checksum_append hlen, hsecret]

/-- A token is the CRC-32/ISCSI of the octets of the address and the secret. Of the tokens of two
addresses of a family under one secret, the exclusive or is the same under every secret of that length,
and it is zero for addresses of four octets only if they are equal. So a host with another such address
can use a token only under a secret that is not the one it was made with. -/
theorem tokens_tell_addresses_apart (a b : Ip) (secret : Bytes) :
    (∀ c, Crc32c.IsCrc32Iscsi (a.octets ++ secret) c ↔ tokenOf a secret = Bytes.ofNat 4 c.toNat) ∧
    (∀ secret' : Bytes, secret'.length = secret.length → a.isV4 = b.isV4 →
      Bytes.xor (tokenOf a secret) (tokenOf b secret) =
        Bytes.xor (tokenOf a secret') (tokenOf b secret')) ∧
    (a.isV4 = true → b.isV4 = true →
      (Bytes.xor (tokenOf a secret) (tokenOf b secret) = [0, 0, 0, 0] ↔ a = b)) ∧
    ∀ (m : TokenMint) (other : Address), a.isV4 = true → other.ip = b → b.isV4 = true → a ≠ b →
      m.accepts other (tokenOf a secret) = true →
      ∃ secret' ∈ [m.current, m.previous], secret' ≠ secret ∧ tokenOf b secret' = tokenOf a secret := by
  refine ⟨fun c => ?_, fun secret' hsecret h => xor_tokenOf_congr h hsecret.symm, fun ha hb => ?_,
    fun m other ha hother hb hne haccepts => ?_⟩
  · rw [Crc32c.isCrc32Iscsi_iff, tokenOf, ofNat_word_inj, eq_comm]
  · have hzero : [0, 0, 0, 0] = Bytes.ofNat 4 (0#32).toNat := by decide
    rw [← tokenOf_inj ha hb secret, tokenOf, tokenOf, xor_ofNat_word, hzero, ofNat_word_inj,
      BitVec.xor_eq_zero_iff, ofNat_word_inj]
  · obtain ⟨secret', hsecret', htoken⟩ :
        ∃ secret' ∈ [m.current, m.previous], tokenOf b secret' = tokenOf a secret := by
      simpa [TokenMint.accepts, hother, @eq_comm _ (tokenOf a secret)] using haccepts
    refine ⟨secret', hsecret', ?_, htoken⟩
    rintro rfl
    exact hne ((tokenOf_inj ha hb secret').1 htoken.symm)

end Storage

end Kademlia
