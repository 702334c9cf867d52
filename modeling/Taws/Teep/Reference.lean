import Taws.TcManager.Reference
import Taws.Teep.Update

/-!
# Concrete libraries

One way to fill in the parameters that stand for libteep, QCBOR and the allocator: what is encoded is
the preferred serialisation if it fits, and every allocation and every library call succeeds.

* `referenceQcbor_preferredSerialisation` — the reference meets what is assumed of QCBOR.
* `workingManifest`, `workingQuery` — nothing fails but what the SUIT processor decides.
-/

namespace Taws.Teep

open TcManager

def referenceQcbor : Qcbor where
  finish := fun item size => if (Cbor.encode item).length ≤ size then some (Cbor.encode item) else none
  finishGetSize := fun item => some (Cbor.encode item).length
  usefulBufSliceTail := fun size used => if used ≤ size then some (size - used) else none

theorem referenceQcbor_preferredSerialisation : referenceQcbor.PreferredSerialisation := by
  intro item size encoded finished
  simp only [referenceQcbor] at finished
  split at finished
  · exact (Option.some.inj finished).symm
  · cases finished

def referenceTeep : Libteep where
  teepMaxArrayLength := 20
  tcListCapacity := 20
  cborTagCoseSign1 := 18
  cborTagInvalid16 := 0xffff
  tCoseAlgorithmEsp256 := -9
  teepCoseNone := 0
  teepCipherSuiteIsSame := fun first second => first = second

def smallLibraries : Libraries := ⟨smallCsuit, referenceTeep, referenceQcbor⟩

/-- Heap blocks 1 and 2 hold the reporting engine and the processor context. -/
def workingManifest (processEnvelope : Bytes → EnvelopeRun) : ManifestEnv where
  reportingEngine := some 1
  processorContext := some 2
  senderKeySet := true
  reportEngineInitialized := true
  reportEncodingStarted := true
  processorInit := some 4096
  recipientKeySet := true
  recipientKeyAdded := true
  addManifest := fun _ => true
  processEnvelope := processEnvelope

/-- The quote is the 64 bytes of report data. -/
def workingEvidence : EvidenceEnv where
  quoteBuf := some 1
  ocallGetQeTargetInfo := some []
  sgxSha384 := fun _ => some (Vector.replicate 48 0)
  sgxCreateReport := fun _ reportData => some reportData.toList
  ocallGetQuoteSize := some 64
  ocallGetQuote := fun report size => some (Vector.ofFn fun index : Fin size => report.getD index 0)
  rawReportDataBuf := some 2

def workingQuery : QueryEnv where
  evidence := workingEvidence
  tcListItems := some 3
  tcInfoBuf := fun index => some (4 + index)

end Taws.Teep
