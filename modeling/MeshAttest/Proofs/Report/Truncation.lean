import MeshAttest.Proofs.Report.Layout

/-!
# Reports that are cut off

The lengths in a report may say that a part of it ends behind its last octet. It cannot be read
then, and the fault names the first such part and where it should have ended. The only other fault
is that not even the lengths have room (`Report.Refused`).

The signature takes all octets that are left. So it is the signature alone that becomes longer with
octets behind a report, or shorter when the report is cut within it. A cut in front of the signature
is found out, and the fault tells in which part of the whole report it is: up to there, the octets
that are left say the same as all of them (`Report.firstBeyond?_take`). `Report.parse_truncation`
puts this together.
-/

set_option autoImplicit false

namespace MeshAttest

open Bytes

theorem Bytes.slice_take {bytes : Bytes} {start size count : Nat} (h : start + size ≤ count) :
    slice (bytes.take count) start size = bytes.slice start size := by
  rw [slice, slice, List.drop_take, List.take_take, Nat.min_eq_left (by omega)]

/-! ### Ends of parts -/

namespace ReportPart

/-- The parts in the order in which they stand in a response. -/
def inOrder : List ReportPart := [.record, .nonce, .blockLength, .block]

/-- Where a part ends, by what the response says of its lengths. -/
def stop (response : Bytes) : ReportPart → Nat
  | .record => Report.nonceStart response
  | .nonce => Report.lengthStart response
  | .blockLength => Report.blockStart response
  | .block => Report.signatureStart response

/-- Every part ends where the signature starts, or in front of it. -/
theorem stop_le_signatureStart (response : Bytes) (part : ReportPart) :
    part.stop response ≤ Report.signatureStart response := by
  have hnonce : Report.nonceStart response ≤ Report.lengthStart response := Nat.le_add_right _ _
  have hlength : Report.lengthStart response ≤ Report.blockStart response := Nat.le_add_right _ _
  have hblock : Report.blockStart response ≤ Report.signatureStart response := Nat.le_add_right _ _
  cases part
  case record => exact Nat.le_trans hnonce (Nat.le_trans hlength hblock)
  case nonce => exact Nat.le_trans hlength hblock
  case blockLength => exact hblock
  case block => exact Nat.le_refl _

end ReportPart

namespace Report

variable {bytes request response : Bytes} {report : Report} {fault : ReportFault} {count : Nat}
  {part : ReportPart}

/-- The first part of a response that ends behind its first `count` octets. -/
def firstBeyond? (count : Nat) (response : Bytes) : Option ReportPart :=
  ReportPart.inOrder.find? fun part ↦ count < part.stop response

/-- There are enough octets for all parts exactly if the signature starts among them. -/
theorem firstBeyond?_eq_none_iff :
    firstBeyond? count response = none ↔ signatureStart response ≤ count := by
  rw [firstBeyond?, List.find?_eq_none]
  simp only [decide_eq_true_eq, Nat.not_lt]
  constructor
  · intro hstops
    exact hstops .block (by decide)
  · intro hcount part _
    exact Nat.le_trans (part.stop_le_signatureStart response) hcount

/-- A response is refused for the first part that ends behind it. -/
theorem ofResponse?_eq (request response : Bytes) :
    ofResponse? request response = match firstBeyond? response.length response with
      | some part => .error (.overrun part (part.stop response) response.length)
      | none => .ok (ofResponse request response) := by
  unfold ofResponse? firstBeyond? ReportPart.inOrder
  simp only [List.find?_cons, List.find?_nil, ReportPart.stop]
  split_ifs with hrecord hnonce hlength hblock
  all_goals simp [*]

/-- Why octets cannot be read as a report. -/
inductive Refused (bytes : Bytes) : ReportFault → Prop
  | tooShort (h : bytes.length < minimumSize) : Refused bytes (.tooShort bytes.length)
  | overrun {part : ReportPart} (h : minimumSize ≤ bytes.length)
    (hpart : firstBeyond? (bytes.length - requestSize) (bytes.drop requestSize) = some part) :
    Refused bytes
      (.overrun part (part.stop (bytes.drop requestSize)) (bytes.length - requestSize))

/-- Octets are refused for being too short, or for the first part that does not fit, and for nothing
else. -/
theorem parse_eq_error_iff : parse bytes = .error fault ↔ Refused bytes fault := by
  have hlength : (bytes.drop requestSize).length = bytes.length - requestSize := List.length_drop
  rw [parse_eq, ofResponse?_eq, hlength]
  constructor
  · intro h
    split at h
    · next hshort =>
      obtain rfl := Except.error.inj h
      exact .tooShort hshort
    · next hsize =>
      split at h
      · next part hpart =>
        obtain rfl := Except.error.inj h
        exact .overrun (Nat.le_of_not_lt hsize) hpart
      · cases h
  · rintro (hshort | ⟨hsize, hpart⟩)
    · rw [if_pos hshort]
    · rw [if_neg (Nat.not_lt.mpr hsize), hpart]

/-- Octets can be read exactly if they have the least size and every part fits. -/
theorem exists_parse_eq_ok_iff :
    (∃ report, parse bytes = .ok report) ↔ minimumSize ≤ bytes.length ∧
      ∀ part : ReportPart, part.stop (bytes.drop requestSize) ≤ bytes.length - requestSize := by
  simp only [parse_eq_ok_iff, exists_and_left, exists_eq', and_true, List.length_drop]
  refine and_congr_right fun _ ↦ ?_
  constructor
  · intro hsignature part
    exact Nat.le_trans (part.stop_le_signatureStart _) hsignature
  · intro hstops
    exact hstops .block

/-! ### Cuts -/

theorem nonceStart_take (h : fixedSize ≤ count) :
    nonceStart (response.take count) = nonceStart response := by
  rw [nonceStart, nonceStart, slice_take h]

theorem blockStart_take (h : fixedSize ≤ count) :
    blockStart (response.take count) = blockStart response := by
  rw [blockStart, blockStart, lengthStart, lengthStart, nonceStart_take h]

/-- Where the signature starts is known once the length of the block has been read. -/
theorem signatureStart_take (h : blockStart response ≤ count) :
    signatureStart (response.take count) = signatureStart response := by
  have hfixed : fixedSize ≤ count := by
    rw [blockStart, lengthStart, nonceStart] at h
    omega
  have hlength : lengthStart (response.take count) = lengthStart response :=
    congrArg (· + nonceSize) (nonceStart_take hfixed)
  rw [signatureStart, blockStart_take hfixed, hlength, slice_take h]
  rfl

/-- A part of what is left ends where it does in the whole, unless it is the block and its length is
cut off. -/
theorem stop_take (h : fixedSize ≤ count) (hpart : part = .block → blockStart response ≤ count) :
    part.stop (response.take count) = part.stop response := by
  cases part
  case record => exact nonceStart_take h
  case nonce => exact congrArg (· + nonceSize) (nonceStart_take h)
  case blockLength => exact blockStart_take h
  case block => exact signatureStart_take (hpart rfl)

/-- The first part that is cut off is the same, whether it is looked for in all octets or in those
that are left. -/
theorem firstBeyond?_take (h : fixedSize ≤ count) :
    firstBeyond? count (response.take count) = firstBeyond? count response := by
  have hstop : ∀ part : ReportPart, part ≠ .block →
      part.stop (response.take count) = part.stop response :=
    fun part hpart ↦ stop_take h fun hblock ↦ absurd hblock hpart
  unfold firstBeyond? ReportPart.inOrder
  simp only [List.find?_cons, List.find?_nil, hstop .record nofun, hstop .nonce nofun,
    hstop .blockLength nofun]
  by_cases hblock : blockStart response ≤ count
  · rw [stop_take h fun _ ↦ hblock]
  · have hbeyond : decide (count < ReportPart.blockLength.stop response) = true :=
      decide_eq_true (Nat.lt_of_not_le hblock)
    rw [hbeyond]

theorem blockStart_le_of_firstBeyond? (h : firstBeyond? count response = some .block) :
    blockStart response ≤ count := by
  by_contra hbeyond
  have hlength : decide (count < ReportPart.blockLength.stop response) = true :=
    decide_eq_true (Nat.lt_of_not_le hbeyond)
  rw [firstBeyond?, ReportPart.inOrder] at h
  simp only [List.find?_cons, hlength] at h
  split at h
  · cases h
  · split at h
    · cases h
    · cases h

theorem stop_take_of_firstBeyond? (h : fixedSize ≤ count)
    (hpart : firstBeyond? count response = some part) :
    part.stop (response.take count) = part.stop response := by
  refine stop_take h ?_
  rintro rfl
  exact blockStart_le_of_firstBeyond? hpart

/-- Where the block of fields of a report ends, and the signature starts. -/
def blockEnd (bytes : Bytes) : Nat := requestSize + signatureStart (bytes.drop requestSize)

/-- A cut in front of the signature is told by the part of the whole report that it is in. -/
theorem exists_parse_take_eq_error (hsize : minimumSize ≤ count) (h : count < blockEnd bytes)
    (hcount : count ≤ bytes.length) :
    ∃ part, firstBeyond? (count - requestSize) (bytes.drop requestSize) = some part ∧
      parse (bytes.take count) =
        .error (.overrun part (part.stop (bytes.drop requestSize)) (count - requestSize)) := by
  have hfixed : fixedSize ≤ count - requestSize := Nat.le_sub_of_add_le' hsize
  have hlength : (bytes.take count).length = count := List.length_take_of_le hcount
  have hbeyond : firstBeyond? (count - requestSize) (bytes.drop requestSize) ≠ none := by
    rw [Ne, firstBeyond?_eq_none_iff]
    rw [blockEnd] at h
    rw [minimumSize] at hsize
    omega
  obtain ⟨part, hpart⟩ := Option.ne_none_iff_exists'.mp hbeyond
  have hleft : firstBeyond? ((bytes.take count).length - requestSize)
      ((bytes.take count).drop requestSize) = some part := by
    rw [hlength, List.drop_take, firstBeyond?_take hfixed, hpart]
  have hrefused := Refused.overrun (hlength.symm ▸ hsize) hleft
  rw [hlength, List.drop_take, stop_take_of_firstBeyond? hfixed hpart] at hrefused
  exact ⟨part, hpart, parse_eq_error_iff.mpr hrefused⟩

/-- What is left of a report is too short below the least size. -/
theorem parse_take_eq_tooShort (h : count < minimumSize) (hcount : count ≤ bytes.length) :
    parse (bytes.take count) = .error (.tooShort count) := by
  have hlength : (bytes.take count).length = count := List.length_take_of_le hcount
  have hrefused := Refused.tooShort (hlength.symm ▸ h)
  rw [hlength] at hrefused
  exact parse_eq_error_iff.mpr hrefused

/-! ### Signatures -/

/-- The signature is all that stands behind the block. -/
theorem signature_eq_drop (h : parse bytes = .ok report) :
    report.signature = bytes.drop (blockEnd bytes) := by
  obtain ⟨-, -, rfl⟩ := parse_eq_ok_iff.mp h
  exact List.drop_drop

/-- Any octets may stand in the place of the signature. -/
theorem parse_take_append (h : parse bytes = .ok report) (signature : Bytes) :
    parse (bytes.take (blockEnd bytes) ++ signature) =
      .ok { report with signature := signature } := by
  -- The signature comes last when a report is written, and nothing in front of it tells its length.
  have hencode : ∀ other : Bytes, encode { report with signature := other } =
      encode { report with signature := [] } ++ other := by
    intro other
    simp only [encode, List.append_nil, List.append_assoc]
  have hfront : encode { report with signature := [] } = bytes.take (blockEnd bytes) := by
    have hwhole : encode { report with signature := [] } ++ report.signature = bytes :=
      (hencode report.signature).symm.trans (encode_of_parse h)
    have hsplit := List.take_append_drop (blockEnd bytes) bytes
    rw [← signature_eq_drop h] at hsplit
    exact List.append_cancel_right (hwhole.trans hsplit.symm)
  have hfits := fits_of_parse h
  rw [← hfront, ← hencode]
  exact parse_encode
    ⟨hfits.request_length, hfits.record_lt, hfits.nonce_length, hfits.fieldBlock_lt⟩

/-- To cut octets off behind the block takes them from the signature, and from nothing else. -/
theorem parse_take (h : parse bytes = .ok report) (hcount : blockEnd bytes ≤ count) :
    parse (bytes.take count) =
      .ok { report with signature := report.signature.take (count - blockEnd bytes) } := by
  have htake : bytes.take (blockEnd bytes + (count - blockEnd bytes)) =
      bytes.take (blockEnd bytes) ++ report.signature.take (count - blockEnd bytes) := by
    rw [List.take_add, signature_eq_drop h]
  rw [Nat.add_sub_cancel' hcount] at htake
  rw [htake]
  exact parse_take_append h _

/-- Octets that are added at the end are added to the signature. -/
theorem parse_append (h : parse bytes = .ok report) (more : Bytes) :
    parse (bytes ++ more) = .ok { report with signature := report.signature ++ more } := by
  have hbytes : bytes ++ more = bytes.take (blockEnd bytes) ++ (report.signature ++ more) := by
    rw [signature_eq_drop h, ← List.append_assoc, List.take_append_drop]
  rw [hbytes]
  exact parse_take_append h _

/-! ### All cuts -/

theorem blockEnd_add_length (h : parse bytes = .ok report) :
    blockEnd bytes + report.signature.length = bytes.length := by
  obtain ⟨hsize, hsignature, -⟩ := parse_eq_ok_iff.mp h
  rw [signature_eq_drop h, List.length_drop, blockEnd]
  rw [List.length_drop] at hsignature
  rw [minimumSize] at hsize
  omega

/-- What is read when octets are cut off at the end of a report, or added there. -/
structure ToldByCuts (bytes : Bytes) (report : Report) : Prop where
  blockEnd_add_length : blockEnd bytes + report.signature.length = bytes.length
  tooShort : ∀ count < minimumSize, parse (bytes.take count) = .error (.tooShort count)
  overrun : ∀ count, minimumSize ≤ count → count < blockEnd bytes →
    ∃ part, firstBeyond? (count - requestSize) (bytes.drop requestSize) = some part ∧
      parse (bytes.take count) =
        .error (.overrun part (part.stop (bytes.drop requestSize)) (count - requestSize))
  shorter : ∀ count, blockEnd bytes ≤ count → parse (bytes.take count) =
    .ok { report with signature := report.signature.take (count - blockEnd bytes) }
  longer : ∀ more, parse (bytes ++ more) = .ok { report with signature := report.signature ++ more }

/-- Octets cannot be read exactly if there are fewer than the fixed part needs or some part ends
behind them, and the first such part is named. In particular a report that is cut off cannot be
read, unless it is the signature that becomes shorter. -/
theorem parse_truncation (bytes : Bytes) :
    (∀ fault, parse bytes = .error fault ↔ Refused bytes fault) ∧
      ((∃ report, parse bytes = .ok report) ↔ minimumSize ≤ bytes.length ∧
        ∀ part : ReportPart, part.stop (bytes.drop requestSize) ≤ bytes.length - requestSize) ∧
      ∀ report, parse bytes = .ok report → ToldByCuts bytes report := by
  refine ⟨fun fault ↦ parse_eq_error_iff, exists_parse_eq_ok_iff, fun report h ↦ ?_⟩
  have hsize : minimumSize ≤ bytes.length := (parse_eq_ok_iff.mp h).1
  have hend := blockEnd_add_length h
  refine ⟨hend, fun count hcount ↦ ?_, fun count hcount hcut ↦ ?_, fun count hcount ↦ ?_, ?_⟩
  · exact parse_take_eq_tooShort hcount (by omega)
  · exact exists_parse_take_eq_error hcount hcut (by omega)
  · exact parse_take h hcount
  · exact parse_append h

/-- A cut through the nonce of a report, which starts behind eleven octets of the response. -/
theorem parse_truncation_smallReport :
    parse (smallReport []).encode = .ok (smallReport []) ∧
      parse ((smallReport []).encode.take 50) = .error (.overrun .nonce 43 13) := by
  have hparse : parse (smallReport []).encode = .ok (smallReport []) :=
    parse_smallReport (by decide)
  obtain ⟨part, hpart, hcut⟩ := ((parse_truncation (smallReport []).encode).2.2 _ hparse).overrun 50
    (by decide) (by decide +kernel)
  have hnonce : firstBeyond? 13 ((smallReport []).encode.drop requestSize) = some .nonce := by
    decide +kernel
  obtain rfl := Option.some.inj (hpart.symm.trans hnonce)
  exact ⟨hparse, hcut⟩

end Report

end MeshAttest
