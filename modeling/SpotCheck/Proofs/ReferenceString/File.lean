import SpotCheck.Proofs.ReferenceString.Progression
import SpotCheck.Proofs.Transcript.Binding
import SpotCheck.ReferenceString.File

/-!
# Reference string files

A byte string is read as a reference string if and only if it is the file of that string, which is a
progression of at most so many points as a file may hold. The reader compares the length with the
count in the header before it cuts, so that it cuts inside the file only.
-/

namespace SpotCheck.ReferenceString

/-! ### Points -/

theorem exists_readPoints {count : Nat} {bytes : Bytes} (done : List Felt)
    (h : 4 * count ≤ bytes.length) :
    ∃ points, readPoints count bytes done = done.reverse ++ points ∧ points.length = count ∧
      points.flatMap Felt.toBytes = bytes.take (4 * count) := by
  induction count generalizing bytes done with
  | zero => exact ⟨[], by simp [readPoints]⟩
  | succ count ih =>
    have hrest : 4 * count ≤ (bytes.drop 4).length := by
      rw [List.length_drop]
      omega
    have hhead : (bytes.take 4).length = 4 := by
      rw [List.length_take]
      omega
    obtain ⟨points, hread, hlen, hforms⟩ := ih (Felt.ofRawBytes (bytes.take 4) :: done) hrest
    refine ⟨Felt.ofRawBytes (bytes.take 4) :: points, ?_, by simp [hlen], ?_⟩
    · rw [readPoints, hread]
      simp
    · have hwidth : 4 * (count + 1) = 4 + 4 * count := by omega
      rw [List.flatMap_cons, Felt.toBytes_ofRawBytes hhead, hforms, hwidth, List.take_add]

theorem readPoints_eq_iff {count : Nat} {bytes : Bytes} {points : List Felt}
    (h : 4 * count ≤ bytes.length) :
    readPoints count bytes [] = points ↔
      points.length = count ∧ points.flatMap Felt.toBytes = bytes.take (4 * count) := by
  obtain ⟨read, hread, hlen, hforms⟩ := exists_readPoints [] h
  rw [hread, List.reverse_nil, List.nil_append]
  constructor
  · intro heq
    rw [← heq]
    exact ⟨hlen, hforms⟩
  · intro hpoints
    obtain ⟨hlen', hforms'⟩ := hpoints
    exact eq_of_flatMap_eq Felt.length_toBytes (fun _ _ => Felt.toBytes_injective)
      (hlen.trans hlen'.symm) (hforms.trans hforms'.symm)

/-! ### Files -/

theorem length_magic : magic.length = 8 := rfl

theorem length_fileBody (s : ReferenceString) :
    (fileBody s.points).length = headerLength + 4 * s.size := by
  simp only [fileBody, headerLength, size, List.length_append, length_magic,
    Bytes.length_littleEndian, length_flatMap_toBytes]
  omega

theorem length_toFileBytes (s : ReferenceString) :
    s.toFileBytes.length = headerLength + 4 * s.size + Digest.width := by
  rw [toFileBytes, List.length_append, length_fileBody, Digest.length_bytes_eq]
  rfl

/-- The count in the header of a byte string. -/
def countIn (bytes : Bytes) : Nat := Bytes.ofLittleEndian ((bytes.drop 8).take 4)

def bodyLengthIn (bytes : Bytes) : Nat := headerLength + 4 * countIn bytes

/-- What the reader has found when it comes to the points. -/
structure IsFramed (bytes : Bytes) : Prop where
  magic : bytes.take 8 = magic
  count : countIn bytes ≠ 0 ∧ countIn bytes ≤ maxPoints
  length : bytes.length = bodyLengthIn bytes + Digest.width
  checksum : (Digest.ofMessage (bytes.take (bodyLengthIn bytes))).bytes =
    bytes.drop (bodyLengthIn bytes)

theorem ofFileBytes_eq_ok_iff_framed {bytes : Bytes} {s : ReferenceString} :
    ofFileBytes bytes = .ok s ↔ IsFramed bytes ∧
      ofPoints (readPoints (countIn bytes) (bytes.drop headerLength) []) = .ok s := by
  simp only [ofFileBytes, bind_eq_ok_iff, ite_error_bind_eq_ok_iff, not_not, Nat.not_lt]
  constructor
  · intro h
    obtain ⟨-, hmagic, _, hcount, hlength, hchecksum, hpoints⟩ := h
    exact ⟨⟨hmagic, checkCount_eq_ok_iff.1 hcount, hlength, hchecksum⟩, hpoints⟩
  · intro h
    obtain ⟨hframed, hpoints⟩ := h
    have hlength := hframed.length
    refine ⟨?_, hframed.magic, (), checkCount_eq_ok_iff.2 hframed.count, hlength,
      hframed.checksum, hpoints⟩
    unfold bodyLengthIn at hlength
    omega

theorem take_toFileBytes (s : ReferenceString) :
    s.toFileBytes.take (headerLength + 4 * s.size) = fileBody s.points := by
  rw [toFileBytes, List.take_left' (length_fileBody s)]

theorem drop_toFileBytes (s : ReferenceString) :
    s.toFileBytes.drop (headerLength + 4 * s.size) =
      (Digest.ofMessage (fileBody s.points)).bytes := by
  rw [toFileBytes, List.drop_left' (length_fileBody s)]

theorem toFileBytes_eq (s : ReferenceString) :
    s.toFileBytes = magic ++ (Bytes.littleEndian 4 s.size ++ (s.points.flatMap Felt.toBytes ++
      (Digest.ofMessage (fileBody s.points)).bytes)) := by
  simp only [toFileBytes, fileBody, size, List.append_assoc]

theorem countIn_toFileBytes {s : ReferenceString} (h : s.size ≤ maxPoints) :
    countIn s.toFileBytes = s.size := by
  have hlt : s.size < 2 ^ 32 := Nat.lt_of_le_of_lt h (by decide)
  rw [countIn, toFileBytes_eq, List.drop_left' length_magic,
    List.take_left' (Bytes.length_littleEndian 4 s.size), Bytes.ofLittleEndian_four hlt]

theorem isFramed_toFileBytes {s : ReferenceString} (hsize : s.size ≤ maxPoints)
    (hpoints : s.points ≠ []) : IsFramed s.toFileBytes := by
  have hcount := countIn_toFileBytes hsize
  have hbody : bodyLengthIn s.toFileBytes = headerLength + 4 * s.size := by
    rw [bodyLengthIn, hcount]
  constructor
  · rw [toFileBytes_eq, List.take_left' length_magic]
  · rw [hcount]
    exact ⟨fun h => hpoints (List.length_eq_zero_iff.1 h), hsize⟩
  · rw [hbody, length_toFileBytes]
  · rw [hbody, take_toFileBytes, drop_toFileBytes]

/-- A framed byte string is the file of the points that stand in it. -/
theorem IsFramed.eq_toFileBytes {bytes : Bytes} {points : List Felt} (h : IsFramed bytes)
    (hcount : points.length = countIn bytes)
    (hforms : points.flatMap Felt.toBytes = (bytes.drop headerLength).take (4 * countIn bytes)) :
    bytes = toFileBytes ⟨points⟩ := by
  have hlength := h.length
  have hraw : ((bytes.drop 8).take 4).length = 4 := by
    rw [List.length_take, List.length_drop, hlength, bodyLengthIn, headerLength]
    omega
  have hnumber : Bytes.littleEndian 4 points.length = (bytes.drop 8).take 4 := by
    have hwritten := Bytes.littleEndian_ofLittleEndian ((bytes.drop 8).take 4)
    rw [hraw] at hwritten
    rw [hcount, countIn, hwritten]
  have hbody : fileBody points = bytes.take (bodyLengthIn bytes) := by
    have hheader : bytes.take headerLength = bytes.take 8 ++ (bytes.drop 8).take 4 :=
      List.take_add (i := 8) (j := 4)
    rw [fileBody, hnumber, hforms, ← h.magic, ← hheader, bodyLengthIn, List.take_add]
  rw [toFileBytes, hbody, h.checksum, List.take_append_drop]

/-- What is read is a progression that a file may hold, and what was read is its file. -/
theorem ofFileBytes_eq_ok_iff {bytes : Bytes} {s : ReferenceString} :
    ofFileBytes bytes = .ok s ↔
      s.size ≤ maxPoints ∧ IsProgression s.points ∧ bytes = s.toFileBytes := by
  rw [ofFileBytes_eq_ok_iff_framed, ofPoints_eq_ok_iff]
  constructor
  · intro h
    obtain ⟨hframed, hprogression, rfl⟩ := h
    have hlength := hframed.length
    have hroom : 4 * countIn bytes ≤ (bytes.drop headerLength).length := by
      rw [List.length_drop, hlength, bodyLengthIn]
      omega
    obtain ⟨hcount, hforms⟩ := (readPoints_eq_iff hroom).1 rfl
    refine ⟨?_, hprogression, hframed.eq_toFileBytes hcount hforms⟩
    show List.length _ ≤ maxPoints
    rw [hcount]
    exact hframed.count.2
  · intro h
    obtain ⟨hsize, hprogression, rfl⟩ := h
    have hheader : (magic ++ Bytes.littleEndian 4 s.size).length = headerLength := rfl
    have hdrop : s.toFileBytes.drop headerLength = s.points.flatMap Felt.toBytes ++
        (Digest.ofMessage (fileBody s.points)).bytes := by
      rw [toFileBytes_eq, ← List.append_assoc, List.drop_left' hheader]
    have hwidth : (s.points.flatMap Felt.toBytes).length = 4 * s.size := by
      rw [length_flatMap_toBytes, size, Nat.mul_comm]
    have hread : readPoints (countIn s.toFileBytes) (s.toFileBytes.drop headerLength) [] =
        s.points := by
      rw [countIn_toFileBytes hsize, hdrop]
      refine (readPoints_eq_iff ?_).2 ⟨rfl, ?_⟩
      · rw [List.length_append, hwidth]
        omega
      · rw [List.take_left' hwidth]
    rw [hread]
    exact ⟨isFramed_toFileBytes hsize hprogression.nonempty, hprogression, rfl⟩

/-! ### Cuts that may fault -/

/-- The bytes from a position up to another one. It faults unless the positions are in order and in
the byte string. -/
def slice (bytes : Bytes) (start stop : Nat) : Except Fault Bytes :=
  if start ≤ stop ∧ stop ≤ bytes.length then .ok ((bytes.take stop).drop start)
  else .error (.outOfBounds bytes.length stop)

/-- The reader with a slice for every cut and a word for every length. -/
def readSlices (bytes : Bytes) : Outcome Error ReferenceString := do
  if bytes.length < headerLength + Digest.width then
    Outcome.refuse (.format (.tooShort bytes.length))
  let head ← Outcome.ofFaulting (slice bytes 0 8)
  if head ≠ magic then Outcome.refuse (.format .badMagic)
  let number ← Outcome.ofFaulting (slice bytes 8 headerLength)
  let count := Bytes.ofLittleEndian number
  Outcome.ofResult (checkCount count)
  let width ← Outcome.ofFaulting (Word.mul count 4)
  let bodyLength ← Outcome.ofFaulting (Word.add headerLength width)
  let length ← Outcome.ofFaulting (Word.add bodyLength Digest.width)
  if bytes.length ≠ length then Outcome.refuse (.format (.wrongLength count bytes.length))
  let body ← Outcome.ofFaulting (slice bytes 0 bodyLength)
  let checksum ← Outcome.ofFaulting (slice bytes bodyLength bytes.length)
  if (Digest.ofMessage body).bytes ≠ checksum then Outcome.refuse .checksum
  let stored ← Outcome.ofFaulting (slice bytes headerLength bodyLength)
  Outcome.ofResult (ofPoints (readPoints count stored []))

theorem slice_eq_ok {bytes : Bytes} {start stop : Nat} (h : start ≤ stop)
    (hstop : stop ≤ bytes.length) :
    slice bytes start stop = .ok ((bytes.drop start).take (stop - start)) := by
  rw [slice, if_pos ⟨h, hstop⟩, List.drop_take]

theorem lengths_eq_ok {count : Nat} (h : count ≤ maxPoints) :
    Word.mul count 4 = .ok (4 * count) ∧
      Word.add headerLength (4 * count) = .ok (headerLength + 4 * count) ∧
      Word.add (headerLength + 4 * count) Digest.width =
        .ok (headerLength + 4 * count + Digest.width) := by
  have hmax : count ≤ 2 ^ 24 := h
  unfold headerLength Digest.width
  refine ⟨Word.mul_eq_ok_iff.2 ⟨Nat.mul_comm .., ?_⟩, Word.add_eq_ok_iff.2 ⟨rfl, ?_⟩,
    Word.add_eq_ok_iff.2 ⟨rfl, ?_⟩⟩ <;> rw [Word.limit_eq] <;> omega

theorem readPoints_take {count : Nat} {bytes : Bytes} (h : 4 * count ≤ bytes.length) :
    readPoints count (bytes.take (4 * count)) [] = readPoints count bytes [] := by
  obtain ⟨hlen, hforms⟩ := (readPoints_eq_iff h).1 rfl
  refine (readPoints_eq_iff ?_).2 ⟨hlen, ?_⟩
  · rw [List.length_take, Nat.min_eq_left h]
  · rw [hforms, List.take_take, Nat.min_self]

/-- No cut faults: each comes behind the check that there are so many bytes. -/
theorem readSlices_eq (bytes : Bytes) : readSlices bytes = Outcome.ofResult (ofFileBytes bytes) := by
  unfold readSlices ofFileBytes
  by_cases hshort : bytes.length < headerLength + Digest.width
  · simp [hshort, bind, Except.bind, Outcome.refuse]
  have hlong : 44 ≤ bytes.length := Nat.not_lt.1 hshort
  have hhead : slice bytes 0 8 = .ok (bytes.take 8) := slice_eq_ok (by omega) (by omega)
  have hnumber : slice bytes 8 headerLength = .ok ((bytes.drop 8).take 4) :=
    slice_eq_ok (by decide) (Nat.le_trans (by decide) hlong)
  simp only [hshort, hhead, hnumber, if_false, Outcome.ofFaulting_ok, bind, Except.bind]
  by_cases hmagic : bytes.take 8 = magic
  swap
  · simp [hmagic, Outcome.refuse]
  generalize Bytes.ofLittleEndian ((bytes.drop 8).take 4) = count
  rcases hcount : checkCount count with e | _
  · simp [hmagic]
  obtain ⟨hwidth, hbody, htotal⟩ := lengths_eq_ok (checkCount_eq_ok_iff.1 hcount).2
  simp only [hmagic, hwidth, hbody, htotal, ne_eq, not_true_eq_false, if_false,
    Outcome.ofResult_ok, Outcome.ofFaulting_ok]
  by_cases hlength : bytes.length = headerLength + 4 * count + Digest.width
  swap
  · simp [hlength, Outcome.refuse]
  -- From here on the length of the byte string is the one that its header announces.
  have hfront : slice bytes 0 (headerLength + 4 * count) =
      .ok (bytes.take (headerLength + 4 * count)) := slice_eq_ok (by omega) (by omega)
  have hback : slice bytes (headerLength + 4 * count) bytes.length =
      .ok (bytes.drop (headerLength + 4 * count)) := by
    rw [slice_eq_ok (by omega) (by omega), List.take_of_length_le (by rw [List.length_drop])]
  have hstored : slice bytes headerLength (headerLength + 4 * count) =
      .ok ((bytes.drop headerLength).take (4 * count)) := by
    rw [slice_eq_ok (by omega) (by omega), Nat.add_sub_cancel_left]
  have hroom : 4 * count ≤ (bytes.drop headerLength).length := by
    rw [List.length_drop]
    omega
  have hpoints := readPoints_take hroom
  rw [if_neg (not_not_intro hlength), if_neg (not_not_intro hlength)]
  simp only [hfront, hback, hstored, hpoints, Outcome.ofFaulting_ok]
  by_cases hchecksum : (Digest.ofMessage (bytes.take (headerLength + 4 * count))).bytes =
      bytes.drop (headerLength + 4 * count)
  · simp [hchecksum]
  · simp [hchecksum, Outcome.refuse]

/-! ### Main theorem -/

/-- A reference string comes from a seed, from a list of points or from a file. -/
def IsMade (s : ReferenceString) : Prop :=
  (∃ count seed, generate count seed = .ok s) ∨ (∃ points, ofPoints points = .ok s) ∨
    ∃ bytes, ofFileBytes bytes = .ok s

theorem IsMade.isProgression {s : ReferenceString} (h : s.IsMade) : IsProgression s.points := by
  rcases h with ⟨count, seed, h⟩ | ⟨points, h⟩ | ⟨bytes, h⟩
  · exact isProgression_of_generate h
  · obtain ⟨hprogression, rfl⟩ := ofPoints_eq_ok_iff.1 h
    exact hprogression
  · exact (ofFileBytes_eq_ok_iff.1 h).2.1

/-- All but the last thirty-two bytes. -/
def bodyOf (bytes : Bytes) : Bytes := bytes.take (bytes.length - Digest.width)

/-- The last thirty-two bytes. -/
def checksumOf (bytes : Bytes) : Bytes := bytes.drop (bytes.length - Digest.width)

theorem checksumOf_of_ofFileBytes {bytes : Bytes} {s : ReferenceString}
    (h : ofFileBytes bytes = .ok s) :
    checksumOf bytes = (Digest.ofMessage (bodyOf bytes)).bytes := by
  obtain ⟨hframed, -⟩ := ofFileBytes_eq_ok_iff_framed.1 h
  have hbody : bytes.length - Digest.width = bodyLengthIn bytes := by
    rw [hframed.length, Nat.add_sub_cancel]
  rw [checksumOf, bodyOf, hbody, hframed.checksum]

/-- A reference string that fits into a file is read back from it, points and digest. A file that is
accepted is the file of what was read, which is a progression from one; its checksum tells it from
every other one, unless two different bodies have one digest. No byte string makes the reader
fault. -/
theorem ofFileBytes_inverts_toFileBytes :
    (∀ s : ReferenceString, s.IsMade → s.size ≤ maxPoints →
      ofFileBytes s.toFileBytes = .ok s) ∧
    (∀ bytes s, ofFileBytes bytes = .ok s → s.toFileBytes = bytes ∧ IsProgression s.points) ∧
    (∀ bytes bytes' s s', ofFileBytes bytes = .ok s → ofFileBytes bytes' = .ok s' →
      checksumOf bytes = checksumOf bytes' → CollisionFree [bodyOf bytes, bodyOf bytes'] →
      bytes = bytes') ∧
    ∀ bytes, readSlices bytes = Outcome.ofResult (ofFileBytes bytes) ∧
      ∀ fault, readSlices bytes ≠ .error (.fault fault) := by
  refine ⟨fun s hmade hsize => ?_, fun bytes s h => ?_, fun bytes bytes' s s' h h' hsame hfree => ?_,
    fun bytes => ⟨readSlices_eq bytes, fun fault hfault => ?_⟩⟩
  · exact ofFileBytes_eq_ok_iff.2 ⟨hsize, hmade.isProgression, rfl⟩
  · obtain ⟨-, hprogression, hbytes⟩ := ofFileBytes_eq_ok_iff.1 h
    exact ⟨hbytes.symm, hprogression⟩
  · have hdigest : Digest.ofMessage (bodyOf bytes) = Digest.ofMessage (bodyOf bytes') := by
      apply Digest.ext_bytes
      rw [← checksumOf_of_ofFileBytes h, ← checksumOf_of_ofFileBytes h', hsame]
    have hbody : bodyOf bytes = bodyOf bytes' := hfree _ (by simp) _ (by simp) hdigest
    calc bytes = bodyOf bytes ++ checksumOf bytes := (List.take_append_drop ..).symm
      _ = bodyOf bytes' ++ checksumOf bytes' := by rw [hbody, hsame]
      _ = bytes' := List.take_append_drop ..
  · rw [readSlices_eq] at hfault
    cases hread : ofFileBytes bytes with
    | ok s => simp [hread] at hfault
    | error e => simp [hread] at hfault

/-- Three points, and their file put together by hand from a header, the points and the checksum. -/
theorem ofFileBytes_inverts_toFileBytes_three_points :
    ofFileBytes (toFileBytes ⟨[⟨1⟩, ⟨3⟩, ⟨9⟩]⟩) = .ok ⟨[⟨1⟩, ⟨3⟩, ⟨9⟩]⟩ ∧
      Bytes.ofText "ZKBSRS01" ++ [3, 0, 0, 0] ++ [1, 0, 0, 0, 3, 0, 0, 0, 9, 0, 0, 0] ++
        checksumOf (toFileBytes ⟨[⟨1⟩, ⟨3⟩, ⟨9⟩]⟩) = toFileBytes ⟨[⟨1⟩, ⟨3⟩, ⟨9⟩]⟩ ∧
      IsProgression [⟨1⟩, ⟨3⟩, ⟨9⟩] ∧
      readSlices [0x5a] = Outcome.refuse (.format (.tooShort 1)) := by
  have hmade : IsMade ⟨[⟨1⟩, ⟨3⟩, ⟨9⟩]⟩ := .inr (.inl ⟨[⟨1⟩, ⟨3⟩, ⟨9⟩], by decide⟩)
  obtain ⟨hread, hwrite, hunique, hslices⟩ := ofFileBytes_inverts_toFileBytes
  have hfile := hread _ hmade (by decide)
  have hbyHand : ofFileBytes (Bytes.ofText "ZKBSRS01" ++ [3, 0, 0, 0] ++
      [1, 0, 0, 0, 3, 0, 0, 0, 9, 0, 0, 0] ++
      checksumOf (toFileBytes ⟨[⟨1⟩, ⟨3⟩, ⟨9⟩]⟩)) = .ok ⟨[⟨1⟩, ⟨3⟩, ⟨9⟩]⟩ := by
    decide +kernel
  refine ⟨hfile, hunique _ _ _ _ hbyHand hfile ?sameChecksum ?noCollision, (hwrite _ _ hfile).2,
    (hslices _).1⟩
  case sameChecksum => decide +kernel
  case noCollision => decide +kernel

end SpotCheck.ReferenceString
