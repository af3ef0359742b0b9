/-
This file lists what a package of this extractor offers under which names.
-/

import ComponentEvents.Text.Quoted

namespace ComponentEvents.Catalogue

def packageName : String := "eventschema"

def version : String := "0.1.0"

/-- The operations stand first, then the errors, the schema and the configuration. -/
def names : List String :=
  [
    "get_events",
    "build_event_schema",
    "AliasCycleError",
    "EventExtractionError",
    "EventTypeResolutionError",
    "UnresolvedEventArgumentsError",
    "UnsupportedEventPropertyTypeError",
    "BubblingType",
    "EventShape",
    "NamedProperty",
    "ObjectTypeAnnotation",
    "DEFAULT_CONFIG",
    "ExtractionConfig"]

/-- This is the message for a name that is not offered. -/
def missingMessage (name : String) : String :=
  "module " ++ Text.quoted packageName ++ " has no attribute " ++ Text.quoted name

/-- A name is found exactly when it is listed. -/
def find (name : String) : Except String Unit :=
  if name ∈ names then .ok () else .error (missingMessage name)

end ComponentEvents.Catalogue
