/-!
# Faults

Refusing a row is no fault: that is a predicate which does not hold. Every fault is a mistake in how
types, permissions, tokens or settings were given. `message` is its text for people; a fault is one of
registration when it says what is wrong with a type or a field.
-/

namespace RowAccess

/-- Why an operation fails. -/
inductive Fault
  /-- The catalog does not describe the type. -/
  | unknownEntityType (entity : String)
  /-- The type has no such field. -/
  | unknownField (entity field : String)
  /-- The field belongs to another type. -/
  | foreignField (entity field declaredBy : String)
  /-- Fields of this kind cannot be classified. -/
  | unsupportedFieldKind (entity field kind supported : String)
  /-- The field is classified under another dimension. -/
  | conflictingClassification (entity field existing requested : String)
  /-- A permission pattern cannot be read. -/
  | malformedSelector (selector reason : String)
  /-- A token is no value of the field's kind. -/
  | valueCoercion (field kind token reason : String)
  /-- No source of clearances was installed. -/
  | missingClearanceSource
  /-- The settings cannot be read or do not hold together. -/
  | config (message : String)
deriving Repr, DecidableEq

namespace Fault

def message : Fault → String
  | unknownEntityType entity => "Unknown entity type: " ++ entity
  | unknownField entity field => "Unknown field '" ++ field ++ "' on entity type " ++ entity
  | foreignField entity field declaredBy =>
      "Field '" ++ field ++ "' is not a field of " ++ entity ++ " (declared by " ++ declaredBy ++ ")"
  | unsupportedFieldKind entity field kind supported =>
      "Field '" ++ field ++ "' of " ++ entity ++ " has kind " ++ kind ++
        "; only the following kinds can be used as classifications: " ++ supported
  | conflictingClassification entity field existing requested =>
      "Field '" ++ field ++ "' of " ++ entity ++ " is already classified under '" ++ existing ++
        "', cannot reclassify under '" ++ requested ++ "'"
  | malformedSelector selector reason => "Malformed selector '" ++ selector ++ "': " ++ reason
  | valueCoercion field kind token reason =>
      "Cannot coerce clearance '" ++ token ++ "' to " ++ kind ++ " for field '" ++ field ++ "': " ++
        reason
  | missingClearanceSource =>
      "No clearance source configured: call PredicateRegistry::set_clearance_source during startup"
  | config message => "Configuration error: " ++ message

/-- True of the faults of types and fields. -/
def isRegistration : Fault → Bool
  | unknownEntityType _ => true
  | unknownField _ _ => true
  | foreignField _ _ _ => true
  | unsupportedFieldKind _ _ _ _ => true
  | conflictingClassification _ _ _ _ => true
  | _ => false

end Fault

end RowAccess
