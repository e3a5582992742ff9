import Depot.Codec.Json
import Depot.Http.Message
import Depot.Store.State

/-!
# Probes

Whether the server lives, and whether its devices do their work.
-/

namespace Depot.Server

set_option autoImplicit false

open Depot.Http

def liveResponse : Response := .json 200 (Json.objectText [("status", Json.quote "ok")])

/-- The report of one device. -/
def deviceReport (fault? : Option String) : String :=
  Json.objectText
    [("ok", Json.boolText fault?.isNone), ("error", (fault?.map Json.quote).getD "null")]

/-- What the place of the blobs says to a trial write. -/
def diskFault? (health : Health) : Option String :=
  if health.blobPlace then none
  else some ("could not write tmp file: " ++ StoreFault.missingBlob.message)

/-- What the rows say to a trial query. -/
def databaseFault? (health : Health) : Option String :=
  if health.databaseOpen then none
  else some "error: attempted to acquire a connection on a closed pool"

/-- The report of all devices. -/
def readyResponse (health : Health) : Response :=
  let disk? := diskFault? health
  let database? := databaseFault? health
  let isReady := disk?.isNone && database?.isNone
  let checks :=
    Json.objectText [("disk", deviceReport disk?), ("sqlite", deviceReport database?)]
  let status := Json.quote (if isReady then "ok" else "error")
  .json (if isReady then 200 else 503)
    (Json.objectText [("status", status), ("checks", checks)])

end Depot.Server
