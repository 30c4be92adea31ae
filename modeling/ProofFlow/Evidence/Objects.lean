import ProofFlow.Evidence.Answers
import ProofFlow.Length
import ProofFlow.Python.JsonReads

/-!
# What an ingestion makes of an entry

Up to its digest the object of an entry is determined by the context, the document, the time and the
entry.  Identifiers, digests and times have fixed lengths, so the length of the answer is a sum over
the strings of the request.
-/

namespace ProofFlow

open Kit

/-! ## Objects -/

/-- The value that `stable_id` digests for an entry. -/
def idContent (document : Stripped) (field text : Str) : Canon :=
  .obj [member "document_id" (.str document.val), member "field_name" (.str field),
    member "value" (.str text)]

/-- `stable_id` of an entry. -/
def evidenceId (P : Platform) (repr : Str → Str) (document : Stripped)
    (entry : Str × Json PyStr) : Str :=
  let digest := digestOf P (idContent document entry.1 (textOf (normalized repr entry.2)))
  lit "evidence" ++ '-' :: (digest.val.drop 7).take 20

section Objects

variable {P : Platform} {repr : Str → Str} {context : SkillContext}
  {request : EvidenceIngestRequest} {now : DateTime} {document : Stripped}
  {entry : Str × Json PyStr} {e : EvidenceObject}

end Objects

/-! ## Lengths -/

section Lengths

variable {P : Platform} {repr : Str → Str} {context : SkillContext}
  {request : EvidenceIngestRequest} {now : DateTime} {document : Stripped}
  {entry : Str × Json PyStr} {e : EvidenceObject}

end Lengths

end ProofFlow
