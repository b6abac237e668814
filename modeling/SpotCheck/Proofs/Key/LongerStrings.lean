import SpotCheck.Proofs.Key.Origin
import SpotCheck.Proofs.Key.RowWeights
import SpotCheck.Proofs.ReferenceString.Validation
import SpotCheck.ProvingContext

/-!
# Longer reference strings

A setup looks at the reference string in one place only, at so many of its first points as there are
rows under constraints. Where a string has them, nothing that follows tells it from a longer one
that starts with it; where it does not, and nothing else stands in the way of the setup, it is
refused for its size.
-/

namespace SpotCheck

/-! ### Setups -/

namespace Key

variable {c : Circuit} {logRows : Nat} {inputs : PublicInputs} {config : ProverConfig}
  {short long : ReferenceString} {key : Key} {stop : Stop KeyError}

theorem setup_congr (h : long.take? (c.enforcedRows (1 <<< logRows)) =
      short.take? (c.enforcedRows (1 <<< logRows))) :
    setup c logRows inputs config long = setup c logRows inputs config short := by
  simp only [setup, ReferenceString.prefixDigest, h]

/-- Without enough points a setup fails, and what it fails for has to do with the string only when
it is the size. -/
theorem setup_of_few_points (hfew : ¬ c.enforcedRows (1 <<< logRows) ≤ short.size) :
    ∃ stop, setup c logRows inputs config short = .error stop ∧
      (stop = .refused (.string (.tooSmall (c.enforcedRows (1 <<< logRows)) short.size)) ∨
        ∀ string, setup c logRows inputs config string = .error stop) := by
  have hdigest : short.prefixDigest (c.enforcedRows (1 <<< logRows)) =
      .error (.tooSmall (c.enforcedRows (1 <<< logRows)) short.size) := by
    rw [ReferenceString.prefixDigest, ReferenceString.take?_eq_tooSmall hfew]
    rfl
  -- What is checked before the digest is asked for does not look at the string.
  unfold setup
  by_cases hlog : 1 ≤ logRows ∧ logRows ≤ maxLogRows
  swap
  · simp only [dif_neg hlog]
    exact ⟨_, rfl, .inr fun _ => rfl⟩
  simp only [dif_pos hlog]
  by_cases hshape : c.numColumns ≠ 0 ∧ 1 ≤ c.window ∧ c.window ≤ 1 <<< logRows
  swap
  · simp only [dif_neg hshape]
    exact ⟨_, rfl, .inr fun _ => rfl⟩
  simp only [dif_pos hshape]
  by_cases hqueries : config.numQueries = 0
  · simp only [if_pos hqueries]
    exact ⟨_, rfl, .inr fun _ => rfl⟩
  simp only [if_neg hqueries]
  rcases hassertions : Outcome.relabel KeyError.circuit (c.assertions inputs (1 <<< logRows))
    with stop | assertions
  · exact ⟨stop, rfl, .inr fun _ => rfl⟩
  · simp only [hdigest, bind, Except.bind, Outcome.ofResult_error, Outcome.relabel_refused]
    exact ⟨_, rfl, .inl rfl⟩

theorem setup_of_longer (h : short.points <+: long.points)
    (hsetup : setup c logRows inputs config short = .ok key) :
    setup c logRows inputs config long = .ok key := by
  by_cases henough : c.enforcedRows (1 <<< logRows) ≤ short.size
  · rw [setup_congr (ReferenceString.take?_eq_of_le h henough), hsetup]
  · obtain ⟨stop, hstop, -⟩ := setup_of_few_points henough
    rw [hstop] at hsetup
    cases hsetup

theorem setup_error_of_longer (h : short.points <+: long.points)
    (hsetup : setup c logRows inputs config short = .error stop)
    (hstop : ∀ required available, stop ≠ .refused (.string (.tooSmall required available))) :
    setup c logRows inputs config long = .error stop := by
  by_cases henough : c.enforcedRows (1 <<< logRows) ≤ short.size
  · rw [setup_congr (ReferenceString.take?_eq_of_le h henough), hsetup]
  · obtain ⟨stop', hstop', hcause⟩ := setup_of_few_points henough
    obtain rfl : stop' = stop := Except.error.inj (hstop'.symm.trans hsetup)
    exact (hcause.resolve_left (hstop _ _)) long

theorem IsBoundTo.of_longer (h : short.points <+: long.points) (hbound : key.IsBoundTo short) :
    key.IsBoundTo long where
  one_le_numQueries := hbound.one_le_numQueries
  queriesFit := hbound.queriesFit
  rowWeights := by
    rw [ReferenceString.take?_eq_of_le h (ReferenceString.take?_eq_ok_iff.1 hbound.rowWeights).2]
    exact hbound.rowWeights
  stringDigest := hbound.stringDigest

theorem ofBytes_of_longer {stored : Bytes} (h : short.points <+: long.points)
    (hread : ofBytes stored short = .ok key) : ofBytes stored long = .ok key := by
  obtain ⟨hstorable, hbound, hstored⟩ := ofBytes_eq_ok_iff.1 hread
  exact ofBytes_eq_ok_iff.2 ⟨hstorable, hbound.of_longer h, hstored⟩

end Key

/-! ### Proving contexts -/

namespace ProvingContext

variable {ctx ctx' : ProvingContext}

theorem setup_eq_ok_iff {c : Circuit} {logRows : Nat} {inputs : PublicInputs}
    {string : ReferenceString} {config : ProverConfig} :
    setup c logRows inputs string config = .ok ctx ↔
      ∃ key, Key.setup c logRows inputs config string = .ok key ∧ ctx = ⟨string, key, 0⟩ := by
  rw [setup, bind_eq_ok_iff]
  simp only [Except.ok.injEq, eq_comm]

/-- What a context makes and accepts depends on its key alone. -/
theorem createProof_congr (h : ctx'.key = ctx.key) (c : Circuit) (t : Trace)
    (inputs : PublicInputs) :
    (ctx'.createProof c t inputs).1 = (ctx.createProof c t inputs).1 := by
  unfold createProof
  rw [h]
  rcases prove ctx.key c t inputs with stop | proof <;> rfl

theorem checkProof_congr (h : ctx'.key = ctx.key) (c : Circuit) (bytes : Bytes)
    (inputs : PublicInputs) : ctx'.checkProof c bytes inputs = ctx.checkProof c bytes inputs := by
  unfold checkProof
  rw [h]

end ProvingContext

/-! ### Main theorem -/

/-- Of two strings from one seed the shorter one stands in front of the longer one, with the digest
that the longer one has so far. Whatever is set up or read with a string is set up or read as the
same key with every string that starts with it, and proofs and verdicts are the same; a setup that
fails, but not for the size, fails in the same way. -/
theorem longer_string_changes_nothing :
    (∀ seed m n, 1 ≤ m → m ≤ n → n ≤ 2 ^ 24 →
      ((∃ short, ReferenceString.generate m seed = .ok short) ↔
        ∃ long, ReferenceString.generate n seed = .ok long) ∧
      ∀ short long, ReferenceString.generate m seed = .ok short →
        ReferenceString.generate n seed = .ok long →
        short.points = long.points.take m ∧ long.prefixDigest m = .ok short.digest) ∧
    ∀ short long : ReferenceString, short.points <+: long.points →
      (∀ stored key, Key.ofBytes stored short = .ok key → Key.ofBytes stored long = .ok key) ∧
      ∀ c logRows inputs config,
        (∀ key, Key.setup c logRows inputs config short = .ok key →
          Key.setup c logRows inputs config long = .ok key) ∧
        (∀ ctx, ProvingContext.setup c logRows inputs short config = .ok ctx →
          ∃ ctx', ProvingContext.setup c logRows inputs long config = .ok ctx' ∧
            ctx'.key.rowWeights = ctx.key.rowWeights ∧ ctx'.key.toBytes = ctx.key.toBytes ∧
            ctx'.key.digest = ctx.key.digest ∧
            ∀ c t inputs,
              (ctx'.createProof c t inputs).1 = (ctx.createProof c t inputs).1 ∧
              ∀ bytes, ctx'.checkProof c bytes inputs = ctx.checkProof c bytes inputs) ∧
        ∀ stop, Key.setup c logRows inputs config short = .error stop →
          (∀ required available, stop ≠ .refused (.string (.tooSmall required available))) →
          Key.setup c logRows inputs config long = .error stop := by
  refine ⟨fun seed m n hm hmn hn => ⟨?_, fun short long hshort hlong => ?_⟩,
    fun short long h => ⟨fun stored key => Key.ofBytes_of_longer h, fun c logRows inputs config =>
      ⟨fun key => Key.setup_of_longer h, fun ctx hsetup => ?_, fun stop =>
        Key.setup_error_of_longer h⟩⟩⟩
  · rw [ReferenceString.generate_isOk_iff, ReferenceString.generate_isOk_iff]
    exact and_congr_left' (by omega)
  · obtain ⟨-, tau, htau, rfl⟩ := ReferenceString.generate_eq_ok_iff.1 hshort
    obtain ⟨-, tau', htau', rfl⟩ := ReferenceString.generate_eq_ok_iff.1 hlong
    obtain rfl := Except.ok.inj (htau.symm.trans htau')
    have htake := ReferenceString.take_powersAt tau hmn
    refine ⟨htake.symm, ReferenceString.prefixDigest_eq_ok_iff.2 ⟨_, ?_, rfl⟩⟩
    refine ReferenceString.take?_eq_ok_iff.2 ⟨htake, ?_⟩
    rw [ReferenceString.length_powersAt]
    exact hmn
  · obtain ⟨key, hkey, rfl⟩ := ProvingContext.setup_eq_ok_iff.1 hsetup
    refine ⟨⟨long, key, 0⟩, ProvingContext.setup_eq_ok_iff.2 ⟨key, Key.setup_of_longer h hkey, rfl⟩,
      rfl, rfl, rfl, fun c t inputs => ?_⟩
    have hkey : (⟨long, key, 0⟩ : ProvingContext).key =
        (⟨short, key, 0⟩ : ProvingContext).key := rfl
    exact ⟨ProvingContext.createProof_congr hkey c t inputs,
      fun bytes => ProvingContext.checkProof_congr hkey c bytes inputs⟩

/-- Two points and three points from the empty seed; and a fourth point behind the three of a key,
with a setup that succeeds and one that asks for no queries. -/
theorem longer_string_changes_nothing_fourth_point :
    (∃ short long, ReferenceString.generate 2 [] = .ok short ∧
      ReferenceString.generate 3 [] = .ok long ∧ short.points = long.points.take 2) ∧
    Key.ofBytes Constant.threePointsKey.toBytes ⟨[⟨1⟩, ⟨3⟩, ⟨9⟩, ⟨27⟩]⟩ =
      .ok Constant.threePointsKey ∧
    Key.setup Constant.circuit 2 .empty ⟨1⟩ ⟨[⟨1⟩, ⟨3⟩, ⟨9⟩, ⟨27⟩]⟩ =
      .ok Constant.threePointsKey ∧
    Key.setup Constant.circuit 2 .empty ⟨0⟩ ⟨[⟨1⟩, ⟨3⟩, ⟨9⟩, ⟨27⟩]⟩ =
      Outcome.refuse (.parameters .noQueries) := by
  obtain ⟨hgenerate, hlonger⟩ := longer_string_changes_nothing
  obtain ⟨hends, hfront⟩ := hgenerate [] 2 3 (by decide) (by decide) (by decide)
  obtain ⟨hread, hsetups⟩ := hlonger ⟨[⟨1⟩, ⟨3⟩, ⟨9⟩]⟩ ⟨[⟨1⟩, ⟨3⟩, ⟨9⟩, ⟨27⟩]⟩ ⟨[⟨27⟩], rfl⟩
  have hsearch : ReferenceString.SearchEnds [] := ⟨0, by decide +kernel⟩
  obtain ⟨long, hlong⟩ : ∃ long, ReferenceString.generate 3 [] = .ok long :=
    ReferenceString.generate_isOk_iff.2 ⟨by decide, hsearch⟩
  obtain ⟨short, hshort⟩ := hends.2 ⟨long, hlong⟩
  refine ⟨⟨short, long, hshort, hlong, (hfront short long hshort hlong).1⟩, hread _ _ ?_,
    (hsetups _ _ _ _).1 _ Constant.setup_eq_threePointsKey, (hsetups _ _ _ _).2.2 _ rfl (by simp)⟩
  decide +kernel

end SpotCheck
