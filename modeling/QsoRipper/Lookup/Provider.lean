/-
QsoRipper/Lookup/Provider.lean

What a callsign provider answers: `CallsignProvider::lookup_callsign` and its
errors.
-/
import QsoRipper.Application.Backfill
import QsoRipper.Domain.Callsign

namespace QsoRipper.Lookup

/-- `DebugHttpHeader`. -/
structure DebugHttpHeader where
  name : String
  value : String
  deriving DecidableEq

/-- `DebugHttpExchange`. -/
structure DebugHttpExchange where
  providerName : String
  operation : String
  startedAtUtc : Option Timestamp
  durationMs : ℕ
  attempt : ℕ
  method : String
  url : String
  requestHeaders : List DebugHttpHeader
  requestBody : Option String
  responseStatusCode : Option ℕ
  responseHeaders : List DebugHttpHeader
  responseBody : Option String
  errorMessage : Option String
  deriving DecidableEq

/-- `CallsignRecord` with the fields that `annotate_record` stamps. -/
structure AnnotatedRecord where
  record : CallsignRecord
  baseCallsign : Option String := none
  modifierText : Option String := none
  modifierKind : Option ℤ := none
  prefixOverrideCallsign : Option String := none
  operatingEntityHint : Option String := none
  callsignAmbiguity : Option ℤ := none

/-- `annotate_record`. -/
def annotateRecord (record : AnnotatedRecord) (parsed : ParsedCallsign) : AnnotatedRecord :=
  match parsed.modifierKind with
  | none => record
  | some kind =>
      { record with
        baseCallsign := some parsed.baseCallsign
        modifierText := parsed.modifierText
        modifierKind := some kind.toI32
        prefixOverrideCallsign := parsed.prefixOverride
        operatingEntityHint := parsed.operatingEntityHint
        callsignAmbiguity := some parsed.ambiguity.toI32 }

/-- `ProviderLookupOutcome`. -/
inductive ProviderLookupOutcome where
  | found (record : AnnotatedRecord)
  | notFound

/-- `ProviderLookup`. -/
structure ProviderLookup where
  outcome : ProviderLookupOutcome
  debugHttpExchanges : List DebugHttpExchange := []

/-- `ProviderLookupErrorKind`. -/
inductive ProviderLookupErrorKind where
  | configuration
  | authentication
  | session
  | transport
  | parse
  | rateLimited
  deriving DecidableEq

/-- `ProviderLookupError`. -/
structure ProviderLookupError where
  kind : ProviderLookupErrorKind
  message : String
  debugHttpExchanges : List DebugHttpExchange := []
  deriving DecidableEq

namespace ProviderLookupError

/-- `with_prior_debug_http_exchanges`. -/
def withPriorDebugHttpExchanges (error : ProviderLookupError) (prior : List DebugHttpExchange) :
    ProviderLookupError :=
  { error with debugHttpExchanges := prior ++ error.debugHttpExchanges }

/-- `is_retryable`. -/
def isRetryable (error : ProviderLookupError) : Bool :=
  error.kind = .transport ∨ error.kind = .rateLimited

/-- The `Display` text of a kind. -/
def kindText : ProviderLookupErrorKind → String
  | .configuration => "configuration"
  | .authentication => "authentication"
  | .session => "session"
  | .transport => "transport"
  | .parse => "parse"
  | .rateLimited => "rate-limit"

/-- The `Display` text of an error. -/
def toText (error : ProviderLookupError) : String :=
  "Provider " ++ kindText error.kind ++ " error: " ++ error.message

end ProviderLookupError

end QsoRipper.Lookup
