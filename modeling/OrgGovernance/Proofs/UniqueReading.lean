import OrgGovernance.Proofs.DigestText
import Mathlib.Algebra.Order.Ring.Nat

/-!
# What is hashed is read in one way

Two messages do not collide when a common digest makes them the same. The digits
of a digest determine it, and what is hashed for a proposal ends with the number
of the proposal. Whatever the organizations and the calls are, proposals with
different numbers therefore have different identifiers, unless their messages
collide.

A part stands behind its length, so that a row of framed parts tells where its first
part ends and what follows. As long as the lengths fit their eight bytes, the bytes
that are hashed in a domain determine the whole list of parts, however many there are
and however long each of them is. The domains of organizations and of proposals differ
before the shorter one ends, and with them all that is hashed. Two identifiers are
therefore equal for the same parts alone, unless two messages with one digest are found.
-/

namespace OrgGovernance

/-- Two messages do not collide: with one digest they are the same. -/
def Sha256.Apart (message other : Bytes) : Prop := hash message = hash other → message = other

instance (message other : Bytes) : Decidable (Sha256.Apart message other) :=
  inferInstanceAs (Decidable (_ → _))

namespace Identifier

/-- Identifiers are equal exactly when their digests are. -/
theorem derive_eq_iff_hash_eq {domain domain' : Bytes} {parts parts' : List Bytes} :
    derive domain parts = derive domain' parts' ↔
      Sha256.hash (preimage domain parts) = Sha256.hash (preimage domain' parts') := by
  constructor
  · intro h
    exact Digest.ext (Hexadecimal.encode_inj h)
  · intro digests
    rw [derive, derive, digests]

/-- One identifier is derived from one message, if the messages do not collide. -/
theorem preimage_eq_of_derive_eq {domain domain' : Bytes} {parts parts' : List Bytes}
    (apart : Sha256.Apart (preimage domain parts) (preimage domain' parts'))
    (h : derive domain parts = derive domain' parts') :
    preimage domain parts = preimage domain' parts' :=
  apart (derive_eq_iff_hash_eq.mp h)

/-- What is hashed for a proposal ends with its number in eight bytes. -/
theorem preimage_proposalParts (organization : String) (call : Bytes) (number : Word 64) :
    preimage proposalDomain (proposalParts organization call number) =
      proposalDomain ++ framed (Bytes.ofText organization) ++ framed call ++
        Bytes.bigEndian 8 8 ++ Bytes.bigEndian 8 number.toNat := by
  simp only [preimage, proposalParts, List.flatMap_cons, List.flatMap_nil, List.append_nil,
    List.append_assoc]
  rw [framed.eq_1 (Bytes.bigEndian 8 number.toNat), Bytes.length_bigEndian]

/-- What is hashed for a proposal determines its number. -/
theorem number_eq_of_preimage_eq {organization organization' : String} {call call' : Bytes}
    {number number' : Word 64}
    (h : preimage proposalDomain (proposalParts organization call number) =
      preimage proposalDomain (proposalParts organization' call' number')) :
    number = number' := by
  rw [preimage_proposalParts, preimage_proposalParts] at h
  have width : (Bytes.bigEndian 8 number.toNat).length =
      (Bytes.bigEndian 8 number'.toNat).length := by
    rw [Bytes.length_bigEndian, Bytes.length_bigEndian]
  exact Bytes.bigEndian_toNat_inj 8 (List.append_inj_right' h width)

end Identifier

/-- Two messages collide: they are different and have one digest. -/
def Sha256.Collide (message other : Bytes) : Prop := message ≠ other ∧ hash message = hash other

/-- A text is determined by its bytes. -/
theorem Bytes.ofText_inj {text other : String} (h : ofText text = ofText other) : text = other :=
  String.toByteArray_inj.mp (ByteArray.ext (Array.toList_inj.mp h))

namespace Identifier

/-- The length of every part fits the eight bytes in front of it. -/
def LengthsFit (parts : List Bytes) : Prop := ∀ part ∈ parts, part.length < 2 ^ 64

/-- A framed part and what follows it are read in one way. -/
theorem framed_append_inj {part other rest behind : Bytes} (fits : part.length < 2 ^ 64)
    (fits' : other.length < 2 ^ 64) (h : framed part ++ rest = framed other ++ behind) :
    part = other ∧ rest = behind := by
  have width : (Bytes.bigEndian 8 part.length).length = (Bytes.bigEndian 8 other.length).length :=
    (Bytes.length_bigEndian 8 _).trans (Bytes.length_bigEndian 8 _).symm
  simp only [framed, List.append_assoc] at h
  obtain ⟨lengths, parts⟩ := List.append_inj h width
  have below : part.length < Nat.pow 256 8 := fits
  have below' : other.length < Nat.pow 256 8 := fits'
  exact List.append_inj parts (Bytes.bigEndian_inj below below' lengths)

/-- A framed part is never empty, for its length takes eight bytes. -/
theorem framed_append_ne_nil (part rest : Bytes) : framed part ++ rest ≠ [] := by
  intro empty
  have length := congrArg List.length empty
  simp only [framed, List.length_append, Bytes.length_bigEndian, List.length_nil] at length
  omega

/-- Framed parts in a row are read in one way. -/
theorem flatMap_framed_inj {parts other : List Bytes} (fit : LengthsFit parts)
    (fit' : LengthsFit other) (h : parts.flatMap framed = other.flatMap framed) :
    parts = other := by
  -- A row with a part in it is not empty, so that both rows have a first part or neither has.
  induction parts generalizing other with
  | nil =>
    cases other with
    | nil => rfl
    | cons first rest => exact absurd h.symm (framed_append_ne_nil first _)
  | cons part parts ih =>
    cases other with
    | nil => exact absurd h (framed_append_ne_nil part _)
    | cons first rest =>
      obtain ⟨head, tail⟩ := List.forall_mem_cons.mp fit
      obtain ⟨head', tail'⟩ := List.forall_mem_cons.mp fit'
      obtain ⟨same, behind⟩ := framed_append_inj head head' h
      rw [same, ih tail tail' behind]

/-- The bytes that are hashed in a domain determine the parts. -/
theorem preimage_eq_iff {domain : Bytes} {parts other : List Bytes} (fit : LengthsFit parts)
    (fit' : LengthsFit other) :
    preimage domain parts = preimage domain other ↔ parts = other :=
  ⟨fun h => flatMap_framed_inj fit fit' (List.append_cancel_left h), congrArg (preimage domain)⟩

/-- Identifiers are equal exactly when the bytes that are hashed are the same or collide. -/
theorem derive_eq_iff {domain domain' : Bytes} {parts parts' : List Bytes} :
    derive domain parts = derive domain' parts' ↔
      preimage domain parts = preimage domain' parts' ∨
        Sha256.Collide (preimage domain parts) (preimage domain' parts') := by
  rw [derive_eq_iff_hash_eq]
  constructor
  · intro digests
    rcases eq_or_ne (preimage domain parts) (preimage domain' parts') with same | other
    · exact .inl same
    · exact .inr ⟨other, digests⟩
  · rintro (same | ⟨_, digests⟩)
    · exact congrArg Sha256.hash same
    · exact digests

/-- Identifiers in one domain are equal exactly when the parts are the same or what is hashed for
them collides. -/
theorem derive_eq_iff_of_fit {domain : Bytes} {parts other : List Bytes} (fit : LengthsFit parts)
    (fit' : LengthsFit other) :
    derive domain parts = derive domain other ↔
      parts = other ∨ Sha256.Collide (preimage domain parts) (preimage domain other) :=
  derive_eq_iff.trans (or_congr_left (preimage_eq_iff fit fit'))

/-- No bytes are hashed both for an organization and for a proposal: the domains differ in their
sixth byte. -/
theorem preimage_organization_ne_proposal (parts parts' : List Bytes) :
    preimage organizationDomain parts ≠ preimage proposalDomain parts' := by
  intro same
  have long : 5 < organizationDomain.length ∧ 5 < proposalDomain.length := by decide +kernel
  have sixth : organizationDomain[5]? = proposalDomain[5]? := by
    calc organizationDomain[5]?
        = (preimage organizationDomain parts)[5]? := (List.getElem?_append_left long.1).symm
      _ = (preimage proposalDomain parts')[5]? := by rw [same]
      _ = proposalDomain[5]? := List.getElem?_append_left long.2
  exact absurd sixth (by decide +kernel)

/-- The part of an organization is four bytes long, so that its length fits. -/
theorem organizationParts_fit (number : Word 32) : LengthsFit (organizationParts number) := by
  intro part member
  obtain rfl := List.mem_singleton.mp member
  rw [Bytes.length_bigEndian]
  decide

/-- The parts of an organization are those of its number alone. -/
theorem organizationParts_eq_iff {number other : Word 32} :
    organizationParts number = organizationParts other ↔ number = other :=
  ⟨fun h => Bytes.bigEndian_toNat_inj 4 (List.cons.inj h).1, congrArg organizationParts⟩

/-- The parts of a proposal have lengths that fit when its organization and its call do. -/
theorem proposalParts_fit {owner : String} {call : Bytes}
    (named : (Bytes.ofText owner).length < 2 ^ 64) (called : call.length < 2 ^ 64)
    (number : Word 64) : LengthsFit (proposalParts owner call number) := by
  intro part member
  simp only [proposalParts, List.mem_cons, List.not_mem_nil, or_false] at member
  rcases member with rfl | rfl | rfl
  · exact named
  · exact called
  · rw [Bytes.length_bigEndian]
    decide

/-- The parts of a proposal are those of its organization, its call and its number alone. -/
theorem proposalParts_eq_iff {owner owner' : String} {call call' : Bytes}
    {number number' : Word 64} :
    proposalParts owner call number = proposalParts owner' call' number' ↔
      owner = owner' ∧ call = call' ∧ number = number' := by
  constructor
  · intro h
    obtain ⟨owners, behind⟩ := List.cons.inj h
    obtain ⟨calls, last⟩ := List.cons.inj behind
    have numbers := (List.cons.inj last).1
    exact ⟨Bytes.ofText_inj owners, calls, Bytes.bigEndian_toNat_inj 8 numbers⟩
  · rintro ⟨rfl, rfl, rfl⟩
    rfl

/-- Lists of parts whose lengths fit are hashed in a domain as different bytes, unless they are the
same list, and no bytes are hashed both for an organization and for a proposal. Identifiers in one
domain are therefore equal exactly when their parts are the same or the bytes that are hashed
collide: those of organizations when the numbers are the same, and those of proposals when
organization, call and number are. -/
theorem identifiers_read_in_one_way :
    (∀ (domain : Bytes) (parts other : List Bytes), LengthsFit parts → LengthsFit other →
      (preimage domain parts = preimage domain other ↔ parts = other) ∧
      (derive domain parts = derive domain other ↔
        parts = other ∨ Sha256.Collide (preimage domain parts) (preimage domain other))) ∧
    (∀ (number : Word 32) (owner : String) (call : Bytes) (drawn : Word 64),
      preimage organizationDomain (organizationParts number) ≠
        preimage proposalDomain (proposalParts owner call drawn)) ∧
    (∀ number other : Word 32, organization number = organization other ↔
      number = other ∨ Sha256.Collide (preimage organizationDomain (organizationParts number))
        (preimage organizationDomain (organizationParts other))) ∧
    (∀ (owner owner' : String) (call call' : Bytes) (number number' : Word 64),
      (Bytes.ofText owner).length < 2 ^ 64 → (Bytes.ofText owner').length < 2 ^ 64 →
      call.length < 2 ^ 64 → call'.length < 2 ^ 64 →
      (proposal owner call number = proposal owner' call' number' ↔
        (owner = owner' ∧ call = call' ∧ number = number') ∨
          Sha256.Collide (preimage proposalDomain (proposalParts owner call number))
            (preimage proposalDomain (proposalParts owner' call' number')))) := by
  refine ⟨?framed, ?domains, ?organizations, ?proposals⟩
  case framed =>
    intro domain parts other fit fit'
    exact ⟨preimage_eq_iff fit fit', derive_eq_iff_of_fit fit fit'⟩
  case domains =>
    intro number owner call drawn
    exact preimage_organization_ne_proposal _ _
  case organizations =>
    intro number other
    have fit := organizationParts_fit number
    have fit' := organizationParts_fit other
    exact (derive_eq_iff_of_fit fit fit').trans (or_congr_left organizationParts_eq_iff)
  case proposals =>
    intro owner owner' call call' number number' named named' called called'
    have fit := proposalParts_fit named called number
    have fit' := proposalParts_fit named' called' number'
    exact (derive_eq_iff_of_fit fit fit').trans (or_congr_left proposalParts_eq_iff)

/-- Bytes that move between two parts change what is hashed, and proposals for which they move
between the organization and the call share an identifier by a collision alone. -/
theorem moved_bytes_read_apart :
    LengthsFit [Bytes.ofText "ab", Bytes.ofText "c"] ∧
      LengthsFit [Bytes.ofText "a", Bytes.ofText "bc"] ∧
      preimage (Bytes.ofText "test") [Bytes.ofText "ab", Bytes.ofText "c"] ≠
        preimage (Bytes.ofText "test") [Bytes.ofText "a", Bytes.ofText "bc"] ∧
      (Bytes.ofText "ab").length < 2 ^ 64 ∧ (Bytes.ofText "a").length < 2 ^ 64 ∧
      ([99] : Bytes).length < 2 ^ 64 ∧ ([98, 99] : Bytes).length < 2 ^ 64 ∧
      (proposal "ab" [99] 0 = proposal "a" [98, 99] 0 →
        Sha256.Collide (preimage proposalDomain (proposalParts "ab" [99] 0))
          (preimage proposalDomain (proposalParts "a" [98, 99] 0))) := by
  obtain ⟨framed, _, _, proposals⟩ := identifiers_read_in_one_way
  have fit : LengthsFit [Bytes.ofText "ab", Bytes.ofText "c"] := by
    unfold LengthsFit
    decide +kernel
  have fit' : LengthsFit [Bytes.ofText "a", Bytes.ofText "bc"] := by
    unfold LengthsFit
    decide +kernel
  have named : (Bytes.ofText "ab").length < 2 ^ 64 := by decide +kernel
  have named' : (Bytes.ofText "a").length < 2 ^ 64 := by decide +kernel
  have called : ([99] : Bytes).length < 2 ^ 64 := by decide
  have called' : ([98, 99] : Bytes).length < 2 ^ 64 := by decide
  refine ⟨fit, fit', fun same => ?_, named, named', called, called', fun same => ?_⟩
  · have parts := (framed _ _ _ fit fit').1.mp same
    exact absurd parts (by decide +kernel)
  · rcases (proposals _ _ _ _ 0 0 named named' called called').mp same with equal | collide
    · exact absurd equal.1 (by decide)
    · exact collide

end Identifier

end OrgGovernance
