/-
This file writes the visits of a history and the context of a session as plain data, and reads
them back. Identifiers and times are written in one form each, whatever form they were read in.
-/
import Wayfinder.AppContext
import Wayfinder.Encoding.Screen
import Wayfinder.History

namespace Wayfinder

open Datum (text)

/-- The identifier of a datum. -/
def Uuid.ofDatum? (datum : Datum) : Option Uuid :=
  datum.text?.bind Uuid.parse?

/-- The point in time of a datum. -/
def Timestamp.ofDatum? (datum : Datum) : Option Timestamp :=
  datum.text?.bind Timestamp.parse?

/-- A visit. -/
def Visit.toDatum (visit : Visit) : Datum :=
  .record [("id", text visit.stamp.identifier.text), ("location", visit.location.toDatum),
    ("visited_at", text visit.stamp.time.text)]

/-- The visit of a datum. -/
def Visit.ofDatum? (datum : Datum) : Option Visit := do
  let fields ← datum.allFields? ["id", "location", "visited_at"]
  let identifier ← fields.required "id" Uuid.ofDatum?
  let location ← fields.required "location" Location.ofDatum?
  let time ← fields.required "visited_at" Timestamp.ofDatum?
  return ⟨⟨identifier, time⟩, location⟩

/-- The context of a session. -/
def AppContext.toDatum (context : AppContext) : Datum :=
  .record [("session_id", text context.session.identifier.text),
    ("started_at", text context.session.time.text), ("app_title", text context.appTitle),
    ("attributes", context.attributes.toDatum)]

/-- The context of a datum. -/
def AppContext.ofDatum? (datum : Datum) : Option AppContext := do
  let fields ← datum.allFields? ["session_id", "started_at", "app_title", "attributes"]
  let identifier ← fields.required "session_id" Uuid.ofDatum?
  let time ← fields.required "started_at" Timestamp.ofDatum?
  let appTitle ← fields.required "app_title" Datum.text?
  let attributes ← fields.required "attributes" Datum.textMap?
  return ⟨⟨identifier, time⟩, appTitle, attributes⟩

end Wayfinder
