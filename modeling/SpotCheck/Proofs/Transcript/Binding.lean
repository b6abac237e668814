import Mathlib.Data.List.Induction
import SpotCheck.Proofs.Key.Codec
import SpotCheck.Proofs.Merkle.Binding

/-!
# Transcripts bind what they absorbed

A transcript is a chain of digests. Whoever brings two chains into one state has absorbed the same
messages in both, or has two different messages with one digest among those that were hashed; a
chain that ends earlier is told apart by its start, which is shorter than every link. The first two
links are the digests of the key and of the public inputs, whose stored forms say what they are.
-/

namespace SpotCheck

theorem length_flatMap_toBytes (values : List Felt) :
    (values.flatMap Felt.toBytes).length = values.length * 4 :=
  length_flatMap_of_forall fun v _ => v.length_toBytes

/-! ### Reference strings -/

namespace ReferenceString

def pointsMessage (points : List Felt) : Bytes :=
  digestDomain ++ Bytes.littleEndian 8 points.length ++ points.flatMap Felt.toBytes

theorem pointsDigest_eq (points : List Felt) :
    pointsDigest points = Digest.ofMessage (pointsMessage points) := rfl

/-- The length of the message tells the number of points. -/
theorem pointsMessage_injective : Function.Injective pointsMessage := by
  intro points points' h
  have hlen := congrArg List.length h
  simp only [pointsMessage, List.length_append, Bytes.length_littleEndian,
    length_flatMap_toBytes] at hlen
  have hcount : points.length = points'.length := by omega
  have htail : points.flatMap Felt.toBytes = points'.flatMap Felt.toBytes :=
    List.append_inj_right h (by simp)
  exact eq_of_flatMap_eq Felt.length_toBytes (fun _ _ => Felt.toBytes_injective) hcount htail

end ReferenceString

/-! ### Public inputs -/

namespace PublicInputs

/-- Both lengths have room in four bytes. -/
structure Storable (inputs : PublicInputs) : Prop where
  initial : inputs.initial.length < 2 ^ 32
  final : inputs.final.length < 2 ^ 32

theorem listBytes_append_inj {values values' : List Felt} {rest rest' : Bytes}
    (hlt : values.length < 2 ^ 32) (hlt' : values'.length < 2 ^ 32)
    (h : listBytes values ++ rest = listBytes values' ++ rest') :
    values = values' ∧ rest = rest' := by
  simp only [listBytes, List.append_assoc] at h
  obtain ⟨hfront, hback⟩ := List.append_inj h (by simp)
  have hcount := Bytes.littleEndian_four_inj hlt hlt' hfront
  have hwidth : (values.flatMap Felt.toBytes).length = (values'.flatMap Felt.toBytes).length := by
    rw [length_flatMap_toBytes, length_flatMap_toBytes, hcount]
  obtain ⟨hvalues, hrest⟩ := List.append_inj hback hwidth
  exact ⟨eq_of_flatMap_eq Felt.length_toBytes (fun _ _ => Felt.toBytes_injective) hcount hvalues,
    hrest⟩

theorem Storable.toBytes_inj {inputs inputs' : PublicInputs} (hinputs : inputs.Storable)
    (hinputs' : inputs'.Storable) (h : inputs.toBytes = inputs'.toBytes) : inputs = inputs' := by
  obtain ⟨hinitial, hrest⟩ := listBytes_append_inj hinputs.initial hinputs'.initial h
  rw [← List.append_nil (listBytes inputs.final), ← List.append_nil (listBytes inputs'.final)]
    at hrest
  obtain ⟨hfinal, -⟩ := listBytes_append_inj hinputs.final hinputs'.final hrest
  cases inputs
  cases inputs'
  dsimp only at hinitial hfinal
  rw [hinitial, hfinal]

end PublicInputs

/-! ### Keys -/

namespace Key

def message (key : Key) : Bytes := digestDomain ++ key.toBytes

theorem digest_eq (key : Key) : key.digest = Digest.ofMessage key.message := rfl

/-- The key came from a setup, of any circuit, or from a stored form. -/
def IsIssued (key : Key) : Prop :=
  (∃ stored string, ofBytes stored string = .ok key) ∨
    ∃ c logRows inputs config string, setup c logRows inputs config string = .ok key

theorem IsIssued.pointsDigest_rowWeights {key : Key} (h : key.IsIssued) :
    ReferenceString.pointsDigest key.rowWeights = key.stringDigest := by
  rcases h with ⟨stored, string, hread⟩ | ⟨c, logRows, inputs, config, string, hsetup⟩
  · exact (ofBytes_eq_ok_iff.1 hread).2.1.stringDigest
  · exact (isOf_of_setup hsetup).pointsDigest_rowWeights

theorem Storable.toFields_eq {key other : Key} (hkey : key.Storable) (hother : other.Storable)
    (h : key.toBytes = other.toBytes) : key.toFields = other.toFields := by
  rw [← toBytes_toFields, ← toBytes_toFields] at h
  have hread := fields_eq_ok_iff.2 ⟨fits_toFields_iff.2 hkey, rfl⟩
  have hread' := fields_eq_ok_iff.2 ⟨fits_toFields_iff.2 hother, rfl⟩
  rw [h] at hread
  exact Except.ok.inj (hread.symm.trans hread')

/-- The stored form leaves out nothing but the weights. -/
theorem eq_of_toFields_eq {key other : Key} (hfields : key.toFields = other.toFields)
    (hweights : key.rowWeights = other.rowWeights) : key = other := by
  have hdigest : key.stringDigest = other.stringDigest :=
    Digest.ext_bytes (congrArg Fields.stringDigest hfields)
  cases key
  cases other
  simp only [toFields, Fields.mk.injEq] at hfields hweights hdigest
  simp_all

end Key

/-! ### Chains -/

namespace Transcript

/-- The messages hashed when digests are appended, first one first. -/
def chainMessages (t : Transcript) : List Digest → List Bytes
  | [] => []
  | d :: ds => Merkle.pairMessage t.state d :: chainMessages (t.append d) ds

theorem chainMessages_append_singleton (t : Transcript) (ds : List Digest) (d : Digest) :
    t.chainMessages (ds ++ [d]) =
      t.chainMessages ds ++ [Merkle.pairMessage (ds.foldl append t).state d] := by
  induction ds generalizing t with
  | nil => rfl
  | cons e ds ih =>
    rw [List.cons_append, chainMessages, ih, chainMessages, List.foldl_cons, List.cons_append]

theorem state_append (t : Transcript) (d : Digest) :
    (t.append d).state = Digest.ofMessage (Merkle.pairMessage t.state d) := rfl

/-- No link of a chain is its start: the start hashes twenty bytes, a link sixty-four. -/
theorem start_ne_link {t : Transcript} {d : Digest} {messages : List Bytes}
    (hfree : CollisionFree messages) (hstart : domain ∈ messages)
    (hlink : Merkle.pairMessage t.state d ∈ messages) : start.state ≠ (t.append d).state := by
  intro h
  rw [state_append] at h
  have hsame := hfree _ hstart _ hlink h
  have hlen := congrArg List.length hsame
  have hdomain : domain.length = 20 := rfl
  rw [hdomain, Merkle.pairMessage, List.length_append, Digest.length_bytes_eq,
    Digest.length_bytes_eq] at hlen
  omega

/-- Chains in the same state have absorbed the same digests. From the last link to the first: equal
states are digests of equal pairs, hence the last digests agree and so do the states before. -/
theorem eq_of_chain_state_eq {ds es : List Digest}
    (hfree : CollisionFree (domain :: (start.chainMessages ds ++ start.chainMessages es)))
    (h : (ds.foldl append start).state = (es.foldl append start).state) : ds = es := by
  induction ds using List.reverseRecOn generalizing es with
  | nil =>
    cases es using List.reverseRecOn with
    | nil => rfl
    | append_singleton es e =>
      rw [List.foldl_append] at h
      rw [chainMessages_append_singleton] at hfree
      exact absurd h (start_ne_link hfree (by simp) (by simp))
  | append_singleton ds d ih =>
    rw [chainMessages_append_singleton] at hfree
    rw [List.foldl_append] at h
    cases es using List.reverseRecOn with
    | nil => exact absurd h.symm (start_ne_link hfree (by simp) (by simp))
    | append_singleton es e =>
      rw [chainMessages_append_singleton] at hfree
      rw [List.foldl_append] at h
      have hpair := hfree (Merkle.pairMessage (ds.foldl append start).state d) (by simp)
        (Merkle.pairMessage (es.foldl append start).state e) (by simp) h
      obtain ⟨hstate, rfl⟩ := Merkle.pairMessage_inj.1 hpair
      have hbefore : CollisionFree
          (domain :: (start.chainMessages ds ++ start.chainMessages es)) := by
        refine hfree.subset fun m hm => ?_
        simp only [List.mem_cons, List.mem_append] at hm ⊢
        tauto
      rw [ih hbefore hstate]

end Transcript

/-! ### Main theorem -/

/-- The messages hashed on the way to the transcript of a proof: the weights of the key, its stored
form, the public inputs, the start of the chain and its links. -/
def seedMessages (key : Key) (inputs : PublicInputs) (roots : List Digest) : List Bytes :=
  ReferenceString.pointsMessage key.rowWeights :: key.message :: inputs.toBytes ::
    Transcript.domain :: Transcript.start.chainMessages (key.digest :: inputs.digest :: roots)

/-- Challenges are drawn from the same state only for the same key, weights included, the same
public inputs and the same roots; or else two different messages with one digest are among those
that were hashed. -/
theorem eq_of_seedTranscript_eq {key key' : Key} {inputs inputs' : PublicInputs}
    {roots roots' : List Digest} (hkey : key.IsIssued) (hkey' : key'.IsIssued)
    (hstorable : key.Storable) (hstorable' : key'.Storable) (hinputs : inputs.Storable)
    (hinputs' : inputs'.Storable)
    (hfree : CollisionFree (seedMessages key inputs roots ++ seedMessages key' inputs' roots'))
    (h : (seedTranscript key inputs roots).state = (seedTranscript key' inputs' roots').state) :
    key = key' ∧ inputs = inputs' ∧ roots = roots' := by
  have hchains : CollisionFree (Transcript.domain ::
      (Transcript.start.chainMessages (key.digest :: inputs.digest :: roots) ++
        Transcript.start.chainMessages (key'.digest :: inputs'.digest :: roots'))) := by
    refine hfree.subset fun m hm => ?_
    simp only [seedMessages, List.mem_cons, List.mem_append] at hm ⊢
    tauto
  have habsorbed := Transcript.eq_of_chain_state_eq hchains h
  simp only [List.cons.injEq] at habsorbed
  obtain ⟨hdigest, hhash, hroots⟩ := habsorbed
  rw [Key.digest_eq, Key.digest_eq] at hdigest
  have hmessage := hfree key.message (by simp [seedMessages]) key'.message (by simp [seedMessages])
    hdigest
  have hbytes := hfree inputs.toBytes (by simp [seedMessages]) inputs'.toBytes
    (by simp [seedMessages]) hhash
  -- The stored form of a key leaves out its weights; the digest among its fields has them.
  have hfields := hstorable.toFields_eq hstorable' (List.append_cancel_left hmessage)
  have hstring : key.stringDigest = key'.stringDigest :=
    Digest.ext_bytes (congrArg Key.Fields.stringDigest hfields)
  rw [← hkey.pointsDigest_rowWeights, ← hkey'.pointsDigest_rowWeights,
    ReferenceString.pointsDigest_eq, ReferenceString.pointsDigest_eq] at hstring
  have hpoints := hfree (ReferenceString.pointsMessage key.rowWeights) (by simp [seedMessages])
    (ReferenceString.pointsMessage key'.rowWeights) (by simp [seedMessages]) hstring
  have hweights := ReferenceString.pointsMessage_injective hpoints
  exact ⟨Key.eq_of_toFields_eq hfields hweights, hinputs.toBytes_inj hinputs' hbytes, hroots⟩

/-! ### A key set up and a key read -/

namespace Constant

theorem key_storable : key.Storable := by
  refine ⟨?_, ?_, ?_, ?_, ?_⟩ <;> decide

def inputs : PublicInputs := ⟨[⟨5⟩], [⟨5⟩, ⟨8⟩]⟩

theorem seed_collisionFree : CollisionFree
    (seedMessages key inputs trace.roots ++ seedMessages key inputs trace.roots) := by
  decide +kernel

end Constant

/-- A key set up and the same key read against a longer string lead to one state. -/
theorem eq_of_seedTranscript_constant : ∃ key key' : Key,
    Key.setup Constant.circuit 1 .empty ⟨1⟩ Constant.string = .ok key ∧
      Key.ofBytes key.toBytes ⟨[.one, ⟨3⟩, ⟨9⟩]⟩ = .ok key' ∧
      CollisionFree (seedMessages key Constant.inputs Constant.trace.roots ++
        seedMessages key' Constant.inputs Constant.trace.roots) ∧
      (seedTranscript key Constant.inputs Constant.trace.roots).state =
        (seedTranscript key' Constant.inputs Constant.trace.roots).state ∧ key = key' := by
  have hfit : Constant.key.QueriesFit := by
    unfold Key.QueriesFit
    decide
  have hread : Key.ofBytes Constant.key.toBytes ⟨[.one, ⟨3⟩, ⟨9⟩]⟩ = .ok Constant.key :=
    Key.ofBytes_eq_ok_iff.2 ⟨Constant.key_storable, ⟨by decide, hfit, rfl, rfl⟩, rfl⟩
  have hinputs : Constant.inputs.Storable := ⟨by decide, by decide⟩
  have hsame := eq_of_seedTranscript_eq (.inr ⟨_, _, _, _, _, Constant.setup_eq_key⟩)
    (.inl ⟨_, _, hread⟩) Constant.key_storable Constant.key_storable hinputs hinputs
    Constant.seed_collisionFree rfl
  exact ⟨Constant.key, Constant.key, Constant.setup_eq_key, hread, Constant.seed_collisionFree,
    rfl, hsame.1⟩

end SpotCheck
