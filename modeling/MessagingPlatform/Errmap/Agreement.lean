import MessagingPlatform.Errmap.Mappers

/-!
# Agreement of the wire mappers

An error may wrap several sentinels, and then the order of a table decides
which of them is answered.  The tables of gRPC and HTTP have one order; that
of WebSocket asks for credentials before resources, and for identifiers before
message contents.
-/

namespace MessagingPlatform.Agreement

open Errors
open Mappers

section Selection

variable {Row : Type}

/-- The sentinel of the row that a table answers an error with. -/
def selected (mappings : List (Sentinel × Row)) (err : GoError) :
    Option Sentinel :=
  (mappings.find? fun mapping => errorsIs mapping.1 err).map Prod.fst

/-- Only the order of the sentinels matters. -/
theorem selected_eq_find (mappings : List (Sentinel × Row)) (err : GoError) :
    selected mappings err =
      (mappings.map Prod.fst).find? fun sentinel => errorsIs sentinel err := by
  rw [selected, List.find?_map]
  rfl

/-- The row that is answered belongs to the sentinel selected. -/
theorem selected_eq_none_iff {mappings : List (Sentinel × Row)}
    {err : GoError} :
    selected mappings err = none ↔ firstMapping mappings err = none := by
  rw [selected, firstMapping, Option.map_eq_none_iff, Option.map_eq_none_iff]

end Selection

section Exchange

variable {A : Type} {p : A → Bool} {first second : List A}

/-- Matches of two lists without a common element are different. -/
theorem find_ne_find {left right : A}
    (hdisjoint : ∀ value ∈ first, value ∉ second)
    (hleft : first.find? p = some left)
    (hright : second.find? p = some right) : left ≠ right := by
  rintro rfl
  exact hdisjoint _ (List.mem_of_find?_eq_some hleft)
    (List.mem_of_find?_eq_some hright)

/-- Two lists without a common element can be searched in either order exactly
if one of them has no match. -/
theorem find_exchange_iff (hdisjoint : ∀ value ∈ first, value ∉ second)
    (rest : Option A) :
    (first.find? p).or ((second.find? p).or rest) =
        (second.find? p).or ((first.find? p).or rest) ↔
      first.find? p = none ∨ second.find? p = none := by
  cases hfirst : first.find? p with
  | none => simp
  | some left =>
      cases hsecond : second.find? p with
      | none => simp
      | some right => simp [find_ne_find hdisjoint hfirst hsecond]

end Exchange

section Blocks

/-- The sentinels of missing or insufficient credentials. -/
def accessSentinels : List Sentinel :=
  [.errUnauthorized, .errInvalidOTP, .errOTPExpired, .errDeviceMismatch,
    .errInvalidRefreshToken, .errRefreshTokenReuse, .errSessionExpired,
    .errSessionRevoked, .errForbidden, .errNotMember]

def resourceSentinels : List Sentinel :=
  [.errNotFound, .errAlreadyExists, .errDuplicateMessage]

/-- The sentinels of message contents. -/
def contentSentinels : List Sentinel :=
  [.errMessageTooLarge, .errInvalidContentType]

def identifierSentinels : List Sentinel :=
  [.errEmptyID, .errInvalidID, .errInvalidPhoneNumber]

def operationalSentinels : List Sentinel :=
  [.errRateLimited, .errPhoneRateLimited, .errIPRateLimited,
    .errMaxSessionsExceeded, .errSlowConsumer, .errUnavailable]

/-- Whether the error has one of the sentinels. -/
def hasAny (sentinels : List Sentinel) (err : GoError) : Bool :=
  sentinels.any fun sentinel => errorsIs sentinel err

theorem grpcMappings_order :
    grpcMappings.map Prod.fst =
      resourceSentinels ++ (accessSentinels ++ ([.errInvalidInput] ++
        (contentSentinels ++ (identifierSentinels ++
          operationalSentinels)))) := by
  decide

theorem wsMappings_order :
    wsMappings.map Prod.fst =
      accessSentinels ++ (resourceSentinels ++ ([.errInvalidInput] ++
        (identifierSentinels ++ (contentSentinels ++
          operationalSentinels)))) := by
  decide

variable {err : GoError}

theorem find_eq_none_iff {sentinels : List Sentinel} :
    (sentinels.find? fun sentinel => errorsIs sentinel err) = none ↔
      hasAny sentinels err = false := by
  simp [hasAny]

/-- The error does not mix what the tables put in different order: no
sentinel of access beside one of a resource, and none of contents beside one
of identifiers, unless a sentinel that all tables put before them decides. -/
def Unmixed (err : GoError) : Prop :=
  ¬ (hasAny accessSentinels err = true ∧
    hasAny resourceSentinels err = true) ∧
  (hasAny accessSentinels err = true ∨ hasAny resourceSentinels err = true ∨
    errorsIs .errInvalidInput err = true ∨
    ¬ (hasAny contentSentinels err = true ∧
      hasAny identifierSentinels err = true))

instance (err : GoError) : Decidable (Unmixed err) :=
  inferInstanceAs (Decidable (_ ∧ _))

/-- The tables of gRPC and HTTP have one order. -/
theorem http_selected (err : GoError) :
    selected httpMappings err = selected grpcMappings err := by
  rw [selected_eq_find, selected_eq_find, mapped_sentinels]

theorem grpc_selected (err : GoError) :
    selected grpcMappings err =
      (resourceSentinels.find? fun sentinel => errorsIs sentinel err).or
        ((accessSentinels.find? fun sentinel => errorsIs sentinel err).or
          (([.errInvalidInput].find? fun sentinel => errorsIs sentinel err).or
            ((contentSentinels.find? fun sentinel =>
                errorsIs sentinel err).or
              ((identifierSentinels.find? fun sentinel =>
                  errorsIs sentinel err).or
                (operationalSentinels.find? fun sentinel =>
                  errorsIs sentinel err))))) := by
  rw [selected_eq_find, grpcMappings_order]
  simp only [List.find?_append]

theorem ws_selected (err : GoError) :
    selected wsMappings err =
      (accessSentinels.find? fun sentinel => errorsIs sentinel err).or
        ((resourceSentinels.find? fun sentinel => errorsIs sentinel err).or
          (([.errInvalidInput].find? fun sentinel => errorsIs sentinel err).or
            ((identifierSentinels.find? fun sentinel =>
                errorsIs sentinel err).or
              ((contentSentinels.find? fun sentinel =>
                  errorsIs sentinel err).or
                (operationalSentinels.find? fun sentinel =>
                  errorsIs sentinel err))))) := by
  rw [selected_eq_find, wsMappings_order]
  simp only [List.find?_append]

/-- The order of the WebSocket table matters for mixed errors only. -/
theorem ws_selected_iff (err : GoError) :
    selected wsMappings err = selected grpcMappings err ↔ Unmixed err := by
  have haccess : hasAny accessSentinels err = false ↔ _ :=
    find_eq_none_iff.symm
  have hresource : hasAny resourceSentinels err = false ↔ _ :=
    find_eq_none_iff.symm
  rw [ws_selected, grpc_selected, Unmixed, ← Bool.not_eq_false (hasAny _ _),
    ← Bool.not_eq_false (hasAny _ _), haccess, hresource]
  cases hfirst : accessSentinels.find? fun sentinel =>
      errorsIs sentinel err with
  | some left =>
      cases hsecond : resourceSentinels.find? fun sentinel =>
          errorsIs sentinel err with
      | some right =>
          have hne : left ≠ right :=
            find_ne_find (by decide) hfirst hsecond
          simp [hne]
      | none => simp
  | none =>
      cases resourceSentinels.find? fun sentinel =>
          errorsIs sentinel err with
      | some right => simp
      | none =>
          -- Neither access nor a resource: the later blocks decide.
          by_cases hinput : errorsIs .errInvalidInput err = true
          · simp [hinput]
          · have hexchange := find_exchange_iff
              (p := fun sentinel => errorsIs sentinel err)
              (by decide : ∀ value ∈ identifierSentinels,
                value ∉ contentSentinels)
              (operationalSentinels.find? fun sentinel =>
                errorsIs sentinel err)
            rw [find_eq_none_iff, find_eq_none_iff] at hexchange
            simp only [List.find?_singleton, hinput, Bool.false_eq_true,
              if_false, Option.none_or, hexchange]
            cases hasAny contentSentinels err <;> simp

end Blocks

section Answers

variable (quote : String → String)

/-- The answer to an error that a table does not map. -/
def unmappedStatus : GRPCStatus := ⟨.internal, "internal error"⟩

def unmappedError : HTTPError := ⟨500, "INTERNAL", "internal error"⟩

def unmappedClose : WebSocketClose := ⟨closeInternalError, "internal_error"⟩

/-- What a table answers with stands in one of its columns. -/
theorem mem_column {Row Value : Type} {mappings : List (Sentinel × Row)}
    {err : GoError} {row : Row} (column : Row → Value)
    (hfirst : firstMapping mappings err = some row) :
    column row ∈ mappings.map fun mapping => column mapping.2 := by
  obtain ⟨mapping, hfound, rfl⟩ := Option.map_eq_some_iff.mp hfirst
  exact List.mem_map_of_mem (List.mem_of_find?_eq_some hfound)

/-- No row of a table is the answer to unmapped errors. -/
theorem toGRPCStatus_unmapped_iff (err : GoError) :
    toGRPCStatus quote (some err) = unmappedStatus ↔
      selected grpcMappings err = none := by
  rw [selected_eq_none_iff, toGRPCStatus]
  cases hfirst : firstMapping grpcMappings err with
  | none => exact iff_of_true rfl rfl
  | some code =>
      have hcode : code ≠ .internal :=
        ne_of_mem_of_not_mem (mem_column id hfirst) (by decide)
      simp [unmappedStatus, hcode]

theorem toHTTPError_unmapped_iff (err : GoError) :
    toHTTPError quote (some err) = unmappedError ↔
      selected httpMappings err = none := by
  rw [selected_eq_none_iff, toHTTPError]
  cases hfirst : firstMapping httpMappings err with
  | none => exact iff_of_true rfl rfl
  | some row =>
      have hstatus : row.1 ≠ 500 :=
        ne_of_mem_of_not_mem (mem_column Prod.fst hfirst) (by decide)
      simp [unmappedError, hstatus]

theorem toWebSocketClose_unmapped_iff (err : GoError) :
    toWebSocketClose (some err) = unmappedClose ↔
      selected wsMappings err = none := by
  rw [selected_eq_none_iff, toWebSocketClose]
  cases hfirst : firstMapping wsMappings err with
  | none => exact iff_of_true rfl rfl
  | some row =>
      have hcode : row.1 ≠ closeInternalError :=
        ne_of_mem_of_not_mem (mem_column Prod.fst hfirst) (by decide)
      simp [unmappedClose, hcode]

/-- All tables have the same sentinels. -/
theorem ws_selected_eq_none_iff (err : GoError) :
    selected wsMappings err = none ↔ selected grpcMappings err = none := by
  rw [ws_selected, grpc_selected]
  simp only [Option.or_eq_none_iff]
  tauto

/-- The mappers select one sentinel exactly for the errors that do not mix
what the tables order differently; gRPC and HTTP always do, and all three give
the answer to unmapped errors on the same errors. -/
theorem mappers_agree_iff (err : GoError) :
    (selected grpcMappings err = selected httpMappings err ∧
      (selected wsMappings err = selected grpcMappings err ↔ Unmixed err)) ∧
    (toGRPCStatus quote (some err) = unmappedStatus ↔
      toHTTPError quote (some err) = unmappedError) ∧
    (toGRPCStatus quote (some err) = unmappedStatus ↔
      toWebSocketClose (some err) = unmappedClose) := by
  refine ⟨⟨(http_selected err).symm, ws_selected_iff err⟩, ?_, ?_⟩
  · rw [toGRPCStatus_unmapped_iff, toHTTPError_unmapped_iff, http_selected]
  · rw [toGRPCStatus_unmapped_iff, toWebSocketClose_unmapped_iff,
      ws_selected_eq_none_iff]

/-- An error with a sentinel of access and one of a resource: not found over
gRPC and HTTP, unauthorized over WebSocket. -/
theorem mixed_error_answered_apart :
    let err : GoError := .errorf "%w: %w" []
      [.sentinel .errUnauthorized, .sentinel .errNotFound]
    selected grpcMappings err = some .errNotFound ∧
      selected httpMappings err = some .errNotFound ∧
      selected wsMappings err = some .errUnauthorized ∧
      (toGRPCStatus id (some err)).code = .notFound ∧
      toWebSocketClose (some err) = ⟨closeUnauthorized, "unauthorized"⟩ := by
  decide

end Answers

end MessagingPlatform.Agreement
