import MeshAttest.Bytes
import MeshAttest.Report.Fault

/-!
# The layout of attestation reports

A report is the request of 37 octets that asked for it, followed by the measurement response: five
single octets, a 24-bit length and the measurement record, a nonce of 32 octets, a 16-bit length and
the block of typed fields, and the signature, which takes all that is left. Both lengths are
little-endian.

`Report.parse` reads this layout and `Report.encode` writes it. The offsets are counted from the
start of the response, as in the messages of the faults.
-/

set_option autoImplicit false

namespace MeshAttest

/-- An attestation report. The block of typed fields is kept as octets. -/
structure Report where
  request : Bytes
  version : UInt8
  responseCode : UInt8
  param1 : UInt8
  param2 : UInt8
  blockCount : UInt8
  record : Bytes
  nonce : Bytes
  fieldBlock : Bytes
  signature : Bytes
deriving DecidableEq, Repr

namespace Report

/-- The size of the request in front of every response. -/
def requestSize : Nat := 37

/-- The size of the single octets and the record length. -/
def fixedSize : Nat := 8

/-- The least size of a report. -/
def minimumSize : Nat := requestSize + fixedSize

/-- The size of a nonce. -/
def nonceSize : Nat := 32

/-- Reads a report. A part that runs past the end is refused before it is taken. -/
def parse (report : Bytes) : Except ReportFault Report :=
  if report.length < minimumSize then .error (.tooShort report.length)
  else
    let response : Bytes := report.drop requestSize
    let size := response.length
    let nonceStart := fixedSize + (response.slice 5 3).toNatLE
    let lengthStart := nonceStart + nonceSize
    let blockStart := lengthStart + 2
    let signatureStart := blockStart + (response.slice lengthStart 2).toNatLE
    if size < nonceStart then .error (.overrun .record nonceStart size)
    else if size < lengthStart then .error (.overrun .nonce lengthStart size)
    else if size < blockStart then .error (.overrun .blockLength blockStart size)
    else if size < signatureStart then .error (.overrun .block signatureStart size)
    else .ok {
      request := report.take requestSize
      version := response.getD 0 0
      responseCode := response.getD 1 0
      param1 := response.getD 2 0
      param2 := response.getD 3 0
      blockCount := response.getD 4 0
      record := response.slice fixedSize (nonceStart - fixedSize)
      nonce := response.slice nonceStart nonceSize
      fieldBlock := response.slice blockStart (signatureStart - blockStart)
      signature := response.drop signatureStart }

/-- Writes a report. A length that does not fit its octets is cut to them. -/
def encode (report : Report) : Bytes :=
  report.request
    ++ [report.version, report.responseCode, report.param1, report.param2, report.blockCount]
    ++ Bytes.ofNatLE 3 report.record.length ++ report.record
    ++ report.nonce
    ++ Bytes.ofNatLE 2 report.fieldBlock.length ++ report.fieldBlock
    ++ report.signature

/-- The one-line description of a report. -/
def describe (report : Report) : String :=
  s!"SpdmMeasurementResponse(version=0x{Bytes.hex [report.version]}, "
    ++ s!"response_code=0x{Bytes.hex [report.responseCode]}, "
    ++ s!"blocks={report.blockCount.toNat}, "
    ++ s!"record={report.record.length} bytes, "
    ++ s!"nonce={Bytes.hex (report.nonce.take 8)}..., "
    ++ s!"opaque={report.fieldBlock.length} bytes, "
    ++ s!"signature={report.signature.length} bytes)"

end Report

end MeshAttest
