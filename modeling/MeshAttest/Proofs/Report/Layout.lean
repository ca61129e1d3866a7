import MeshAttest.Bytes.Lemmas
import MeshAttest.Report.Layout

/-!
# Reports and their octets

Reading and writing a report are inverse to each other. Octets can be read exactly if they are
written for a report whose parts have the sizes that the layout has room for (`Report.Fits`), and
what is read is that report (`Report.parse_eq_ok_iff_encode`). So no octet of a report is lost or
belongs to two parts.

Both directions rest on where the parts of a response start. The places are read off the response
itself (`Report.nonceStart` and those after it). For a response that was written they are what the
sizes of the parts add up to, and between any two of them there is one part.
-/

set_option autoImplicit false

namespace MeshAttest

/-! ### Parts of octets -/

namespace Bytes

theorem slice_of_drop_eq {bytes part after : Bytes} {start size : Nat}
    (h : bytes.drop start = part ++ after) (hsize : part.length = size) :
    bytes.slice start size = part := by
  rw [slice, h, ← hsize, List.take_left]

theorem drop_add_of_drop_eq {bytes part after : Bytes} {start size : Nat}
    (h : bytes.drop start = part ++ after) (hsize : part.length = size) :
    bytes.drop (start + size) = after := by
  rw [← List.drop_drop, h, ← hsize, List.drop_left]

/-- A slice and what is behind it make up what is behind its start. -/
theorem slice_append_drop {bytes : Bytes} {start size stop : Nat} (h : start + size = stop) :
    bytes.slice start size ++ bytes.drop stop = bytes.drop start := by
  rw [slice, ← h, ← List.drop_drop, List.take_append_drop]

theorem length_slice {bytes : Bytes} {start size : Nat} (h : start + size ≤ bytes.length) :
    (bytes.slice start size).length = size := by
  rw [slice, List.length_take, List.length_drop]
  omega

/-- Octets that have been read as a number are written back as they were. -/
theorem ofNatLE_toNatLE_slice {bytes : Bytes} {start size : Nat}
    (h : start + size ≤ bytes.length) :
    ofNatLE size (bytes.slice start size).toNatLE = bytes.slice start size := by
  have hoctets := ofNatLE_toNatLE (bytes.slice start size)
  rwa [length_slice h] at hoctets

theorem toNatLE_slice_lt {bytes : Bytes} {start size : Nat} (h : start + size ≤ bytes.length) :
    (bytes.slice start size).toNatLE < 256 ^ size := by
  have hlt := toNatLE_lt (bytes.slice start size)
  rwa [length_slice h] at hlt

theorem getD_eq_slice {bytes : Bytes} (h : 5 ≤ bytes.length) :
    [bytes.getD 0 0, bytes.getD 1 0, bytes.getD 2 0, bytes.getD 3 0, bytes.getD 4 0] =
      bytes.slice 0 5 := by
  match bytes, h with
  | [], h | [_], h | [_, _], h | [_, _, _], h | [_, _, _, _], h => simp at h
  | _ :: _ :: _ :: _ :: _ :: _, _ => rfl

end Bytes

namespace Report

open Bytes

variable {bytes request response : Bytes} {report : Report}

/-! ### Places in a response -/

/-- Where the nonce of a response starts, by the length of the measurement record. -/
def nonceStart (response : Bytes) : Nat := fixedSize + (response.slice 5 3).toNatLE

/-- Where the length of the block of fields starts. -/
def lengthStart (response : Bytes) : Nat := nonceStart response + nonceSize

/-- Where the block of fields starts. -/
def blockStart (response : Bytes) : Nat := lengthStart response + 2

/-- Where the signature starts, by the length of the block of fields. -/
def signatureStart (response : Bytes) : Nat :=
  blockStart response + (response.slice (lengthStart response) 2).toNatLE

/-- The parts of a report that has a request and a response. -/
def ofResponse (request response : Bytes) : Report where
  request := request
  version := response.getD 0 0
  responseCode := response.getD 1 0
  param1 := response.getD 2 0
  param2 := response.getD 3 0
  blockCount := response.getD 4 0
  record := response.slice fixedSize (nonceStart response - fixedSize)
  nonce := response.slice (nonceStart response) nonceSize
  fieldBlock := response.slice (blockStart response) (signatureStart response - blockStart response)
  signature := response.drop (signatureStart response)

/-- Reads a response, for the request that stands in front of it. -/
def ofResponse? (request response : Bytes) : Except ReportFault Report :=
  if response.length < nonceStart response then
    .error (.overrun .record (nonceStart response) response.length)
  else if response.length < lengthStart response then
    .error (.overrun .nonce (lengthStart response) response.length)
  else if response.length < blockStart response then
    .error (.overrun .blockLength (blockStart response) response.length)
  else if response.length < signatureStart response then
    .error (.overrun .block (signatureStart response) response.length)
  else .ok (ofResponse request response)

/-- Octets are taken apart into a request, whose size is fixed, and a response. -/
theorem parse_eq (bytes : Bytes) :
    parse bytes =
      if bytes.length < minimumSize then .error (.tooShort bytes.length)
      else ofResponse? (bytes.take requestSize) (bytes.drop requestSize) :=
  rfl

/-- The places come in order, so that it is the last check which decides. -/
theorem ofResponse?_eq_ok_iff :
    ofResponse? request response = .ok report ↔
      signatureStart response ≤ response.length ∧ ofResponse request response = report := by
  have hnonce : nonceStart response ≤ lengthStart response := Nat.le_add_right _ _
  have hlength : lengthStart response ≤ blockStart response := Nat.le_add_right _ _
  have hblock : blockStart response ≤ signatureStart response := Nat.le_add_right _ _
  unfold ofResponse?
  split_ifs
  case neg hsignature =>
    rw [Except.ok.injEq]
    exact ⟨fun h ↦ ⟨Nat.le_of_not_lt hsignature, h⟩, fun h ↦ h.2⟩
  all_goals exact iff_of_false (fun h ↦ nomatch h) fun h ↦ absurd h.1 (by omega)

/-- Octets can be read exactly if they are as long as what is fixed and as what the response says of
its lengths. -/
theorem parse_eq_ok_iff :
    parse bytes = .ok report ↔
      minimumSize ≤ bytes.length ∧
        signatureStart (bytes.drop requestSize) ≤ (bytes.drop requestSize).length ∧
        ofResponse (bytes.take requestSize) (bytes.drop requestSize) = report := by
  rw [parse_eq, ← ofResponse?_eq_ok_iff]
  by_cases h : bytes.length < minimumSize
  · rw [if_pos h]
    exact iff_of_false (fun h ↦ nomatch h) fun hsize ↦ absurd hsize.1 (Nat.not_le_of_lt h)
  · rw [if_neg h]
    exact ⟨fun hread ↦ ⟨Nat.le_of_not_lt h, hread⟩, fun hread ↦ hread.2⟩

/-! ### Reading what is written -/

/-- The parts have the sizes that the layout has room for. -/
structure Fits (report : Report) : Prop where
  request_length : report.request.length = requestSize
  record_lt : report.record.length < 2 ^ 24
  nonce_length : report.nonce.length = nonceSize
  fieldBlock_lt : report.fieldBlock.length < 2 ^ 16

/-- The octets that are written behind the request. -/
def encodeResponse (report : Report) : Bytes :=
  [report.version, report.responseCode, report.param1, report.param2, report.blockCount]
    ++ (ofNatLE 3 report.record.length ++ (report.record ++ (report.nonce
    ++ (ofNatLE 2 report.fieldBlock.length ++ (report.fieldBlock ++ report.signature)))))

theorem encode_eq (report : Report) :
    report.encode = report.request ++ report.encodeResponse := by
  simp only [encode, encodeResponse, List.append_assoc]

theorem length_encodeResponse (report : Report) :
    report.encodeResponse.length = fixedSize + report.record.length + report.nonce.length + 2 +
      report.fieldBlock.length + report.signature.length := by
  simp only [encodeResponse, List.length_append, length_ofNatLE, List.length_cons, List.length_nil,
    fixedSize]
  omega

theorem drop_fixedSize_encodeResponse (report : Report) :
    report.encodeResponse.drop fixedSize =
      report.record ++ (report.nonce ++ (ofNatLE 2 report.fieldBlock.length ++
        (report.fieldBlock ++ report.signature))) := rfl

theorem nonceStart_encodeResponse (h : report.Fits) :
    nonceStart report.encodeResponse = fixedSize + report.record.length := by
  have hrecordSize : report.encodeResponse.slice 5 3 = ofNatLE 3 report.record.length :=
    slice_of_drop_eq rfl (length_ofNatLE 3 _)
  rw [nonceStart, hrecordSize, toNatLE_ofNatLE_of_lt 3 h.record_lt]

/-! What stands behind a place is what was written from there on, and the place after it is reached
over the part in front. -/

theorem drop_nonceStart_encodeResponse (h : report.Fits) :
    report.encodeResponse.drop (nonceStart report.encodeResponse) =
      report.nonce ++ (ofNatLE 2 report.fieldBlock.length ++
        (report.fieldBlock ++ report.signature)) := by
  rw [nonceStart_encodeResponse h]
  exact drop_add_of_drop_eq report.drop_fixedSize_encodeResponse rfl

theorem drop_lengthStart_encodeResponse (h : report.Fits) :
    report.encodeResponse.drop (lengthStart report.encodeResponse) =
      ofNatLE 2 report.fieldBlock.length ++ (report.fieldBlock ++ report.signature) :=
  drop_add_of_drop_eq (drop_nonceStart_encodeResponse h) h.nonce_length

theorem drop_blockStart_encodeResponse (h : report.Fits) :
    report.encodeResponse.drop (blockStart report.encodeResponse) =
      report.fieldBlock ++ report.signature :=
  drop_add_of_drop_eq (drop_lengthStart_encodeResponse h) (length_ofNatLE 2 _)

theorem signatureStart_encodeResponse (h : report.Fits) :
    signatureStart report.encodeResponse =
      blockStart report.encodeResponse + report.fieldBlock.length := by
  rw [signatureStart, slice_of_drop_eq (drop_lengthStart_encodeResponse h) (length_ofNatLE 2 _),
    toNatLE_ofNatLE_of_lt 2 h.fieldBlock_lt]

theorem drop_signatureStart_encodeResponse (h : report.Fits) :
    report.encodeResponse.drop (signatureStart report.encodeResponse) = report.signature := by
  rw [signatureStart_encodeResponse h]
  exact drop_add_of_drop_eq (drop_blockStart_encodeResponse h) rfl

theorem signatureStart_encodeResponse_le (h : report.Fits) :
    signatureStart report.encodeResponse ≤ report.encodeResponse.length := by
  rw [signatureStart_encodeResponse h, blockStart, lengthStart, nonceStart_encodeResponse h,
    length_encodeResponse, h.nonce_length]
  omega

/-- A written response is read back as it was. -/
theorem ofResponse_encodeResponse (h : report.Fits) :
    ofResponse report.request report.encodeResponse = report := by
  have hrecord : report.encodeResponse.slice fixedSize report.record.length = report.record :=
    slice_of_drop_eq report.drop_fixedSize_encodeResponse rfl
  have hblock : report.encodeResponse.slice (blockStart report.encodeResponse)
      report.fieldBlock.length = report.fieldBlock :=
    slice_of_drop_eq (drop_blockStart_encodeResponse h) rfl
  rw [ofResponse, drop_signatureStart_encodeResponse h,
    slice_of_drop_eq (drop_nonceStart_encodeResponse h) h.nonce_length,
    nonceStart_encodeResponse h, signatureStart_encodeResponse h, Nat.add_sub_cancel_left,
    Nat.add_sub_cancel_left, hrecord, hblock]
  rfl

/-! ### Writing what is read -/

/-- The record is as long as the response says. -/
theorem length_record (h : nonceStart response ≤ response.length) :
    (response.slice fixedSize (nonceStart response - fixedSize)).length =
      (response.slice 5 3).toNatLE := by
  rw [nonceStart, Nat.add_sub_cancel_left]
  exact length_slice h

theorem length_fieldBlock (h : signatureStart response ≤ response.length) :
    (response.slice (blockStart response)
        (signatureStart response - blockStart response)).length =
      (response.slice (lengthStart response) 2).toNatLE := by
  rw [signatureStart, Nat.add_sub_cancel_left]
  exact length_slice h

/-- What is read fits the lengths that are written for it. -/
theorem fits_ofResponse (hrequest : request.length = requestSize)
    (h : signatureStart response ≤ response.length) : (ofResponse request response).Fits := by
  have hnonce : nonceStart response + nonceSize = lengthStart response := rfl
  have hlength : lengthStart response + 2 = blockStart response := rfl
  have hblock : blockStart response ≤ signatureStart response := Nat.le_add_right _ _
  have hfixed : 5 + 3 ≤ nonceStart response := Nat.le_add_right _ _
  refine ⟨hrequest, ?_, length_slice (by omega), ?_⟩
  · show (response.slice fixedSize (nonceStart response - fixedSize)).length < 256 ^ 3
    rw [length_record (by omega)]
    exact toNatLE_slice_lt (by omega)
  · show (response.slice _ (signatureStart response - blockStart response)).length < 256 ^ 2
    rw [length_fieldBlock h]
    exact toNatLE_slice_lt (by omega)

/-- The parts that are read lie side by side. They are put together from the last one on. -/
theorem encodeResponse_ofResponse (h : signatureStart response ≤ response.length) :
    (ofResponse request response).encodeResponse = response := by
  have hrecord : fixedSize + (nonceStart response - fixedSize) = nonceStart response :=
    Nat.add_sub_cancel' (Nat.le_add_right _ _)
  have hnonce : nonceStart response + nonceSize = lengthStart response := rfl
  have hlength : lengthStart response + 2 = blockStart response := rfl
  have hblock :
      blockStart response + (signatureStart response - blockStart response) =
        signatureStart response :=
    Nat.add_sub_cancel' (Nat.le_add_right _ _)
  have hfixed : 5 + 3 = fixedSize := rfl
  have hsingle : [response.getD 0 0, response.getD 1 0, response.getD 2 0, response.getD 3 0,
      response.getD 4 0] = response.slice 0 5 := getD_eq_slice (by omega)
  have hrecordSize :
      ofNatLE 3 (response.slice fixedSize (nonceStart response - fixedSize)).length =
        response.slice 5 3 := by
    rw [length_record (by omega), ofNatLE_toNatLE_slice (by omega)]
  have hblockSize :
      ofNatLE 2 (response.slice (blockStart response)
          (signatureStart response - blockStart response)).length =
        response.slice (lengthStart response) 2 := by
    rw [length_fieldBlock h, ofNatLE_toNatLE_slice (by omega)]
  calc (ofResponse request response).encodeResponse
      = response.slice 0 5 ++ (response.slice 5 3 ++
          (response.slice fixedSize (nonceStart response - fixedSize) ++
            (response.slice (nonceStart response) nonceSize ++
              (response.slice (lengthStart response) 2 ++
                (response.slice (blockStart response)
                    (signatureStart response - blockStart response) ++
                  response.drop (signatureStart response)))))) := by
        rw [← hsingle, ← hrecordSize, ← hblockSize]
        rfl
    _ = response := by
        rw [slice_append_drop hblock, slice_append_drop hlength, slice_append_drop hnonce,
          slice_append_drop hrecord, slice_append_drop hfixed, slice_append_drop (Nat.zero_add 5),
          List.drop_zero]

/-! ### Both directions -/

/-- A report that is written is read back as it was. -/
theorem parse_encode (h : report.Fits) : parse report.encode = .ok report := by
  have htake : report.encode.take requestSize = report.request := by
    rw [encode_eq, ← h.request_length, List.take_left]
  have hdrop : report.encode.drop requestSize = report.encodeResponse := by
    rw [encode_eq, ← h.request_length, List.drop_left]
  rw [parse_eq_ok_iff, htake, hdrop]
  refine ⟨?_, signatureStart_encodeResponse_le h, ofResponse_encodeResponse h⟩
  rw [encode_eq, List.length_append, h.request_length, length_encodeResponse, minimumSize]
  omega

/-- A report that is read could have been written. -/
theorem fits_of_parse (h : parse bytes = .ok report) : report.Fits := by
  obtain ⟨hsize, hsignature, rfl⟩ := parse_eq_ok_iff.mp h
  refine fits_ofResponse (List.length_take_of_le ?_) hsignature
  exact Nat.le_trans (Nat.le_add_right _ _) hsize

/-- Writing a report that has been read gives the octets from which it was read, the last one
included. -/
theorem encode_of_parse (h : parse bytes = .ok report) : report.encode = bytes := by
  obtain ⟨-, hsignature, rfl⟩ := parse_eq_ok_iff.mp h
  rw [encode_eq, encodeResponse_ofResponse hsignature]
  exact List.take_append_drop requestSize bytes

/-- Octets are read as a report exactly if they are what is written for it, and its parts fit. -/
theorem parse_eq_ok_iff_encode (bytes : Bytes) (report : Report) :
    parse bytes = .ok report ↔ report.Fits ∧ report.encode = bytes := by
  constructor
  · intro h
    exact ⟨fits_of_parse h, encode_of_parse h⟩
  · rintro ⟨h, rfl⟩
    exact parse_encode h

/-! ### A small report -/

/-- A report with three octets of record and a block of fields. -/
def smallReport (block : Bytes) : Report where
  request := List.replicate requestSize 0x10
  version := 0x11
  responseCode := 0x60
  param1 := 0
  param2 := 0
  blockCount := 1
  record := [1, 2, 3]
  nonce := List.replicate nonceSize 0x22
  fieldBlock := block
  signature := [0x33]

theorem parse_smallReport {block : Bytes} (h : block.length < 2 ^ 16) :
    parse (smallReport block).encode = .ok (smallReport block) :=
  parse_encode ⟨rfl, show 3 < 2 ^ 24 by decide, rfl, h⟩

end Report

end MeshAttest
