import Depot.Codec.Percent
import Depot.Text.Cut

/-!
# Routes

Where a request goes, by its path and method.  The probes and the native verbs
have fixed first segments; every other path is one of the S3 protocol, and so is
every path below `/s3`.  A path that a native verb cannot take, because a part
of it is missing, is one of the S3 protocol as well.

Paths are matched as they were sent.  What a path names is percent-decoded once,
after the match.
-/

namespace Depot.Server

set_option autoImplicit false

open Depot.Text

/-- A place that a path can lead to, with what the path names as it was sent. -/
inductive Place where
  | healthz
  | readyz
  | put (key : String)
  | putBinary (key : String)
  | get (key : String)
  | update (key : String)
  | append (key : String)
  | rename (old new : String)
  | delete (key : String)
  | buckets
  | bucket (name : String)
  | object (bucket key : String)
  deriving DecidableEq, Repr

namespace Place

/-- The place of a path of the S3 protocol, given without its first slash: all buckets, a bucket
with or without a slash after it, or an object. -/
def ofS3 (path : List Char) : Place :=
  match cutAt '/' path with
  | none => if path.isEmpty then .buckets else .bucket (String.ofList path)
  | some (first, rest) =>
      if rest.isEmpty then .bucket (String.ofList first)
      else .object (String.ofList first) (String.ofList rest)

/-- The place of a path whose first segment is a native verb, given what follows the verb and its
slash.  Two keys are needed to rename: the second has no slash and is not empty. -/
def ofVerb? (verb rest : List Char) : Option Place :=
  let key := String.ofList rest
  if rest.isEmpty then none
  else if verb = "put".toList then some (.put key)
  else if verb = "put_binary".toList then some (.putBinary key)
  else if verb = "get".toList then some (.get key)
  else if verb = "update".toList then some (.update key)
  else if verb = "append".toList then some (.append key)
  else if verb = "delete".toList then some (.delete key)
  else if verb = "update_key".toList then
    match cutAt '/' rest with
    | some (old, new) =>
        if new.isEmpty || new.contains '/' then none
        else some (.rename (String.ofList old) (String.ofList new))
    | none => none
  else none

/-- The place of a path without its first slash. -/
def ofRest (path : List Char) : Place :=
  if path = "healthz".toList then .healthz
  else if path = "readyz".toList then .readyz
  else if path = "s3".toList then .buckets
  else
    match cutAt '/' path with
    | none => ofS3 path
    | some (first, rest) =>
        if first = "s3".toList ∧ rest ≠ [] then ofS3 rest
        else (ofVerb? first rest).getD (ofS3 path)

/-- The place of a path; one that does not begin with a slash leads nowhere. -/
def ofPath? (path : String) : Option Place :=
  match path.toList with
  | '/' :: rest => some (ofRest rest)
  | _ => none

/-- The methods that a place takes, in the order in which they are announced. -/
def methods : Place → List String
  | .healthz => ["GET", "HEAD"]
  | .readyz => ["GET", "HEAD"]
  | .put _ => ["POST"]
  | .putBinary _ => ["POST"]
  | .get _ => ["GET", "HEAD"]
  | .update _ => ["POST"]
  | .append _ => ["POST"]
  | .rename _ _ => ["PUT"]
  | .delete _ => ["DELETE"]
  | .buckets => ["GET", "HEAD"]
  | .bucket _ => ["GET", "HEAD", "PUT", "DELETE"]
  | .object _ _ => ["PUT", "GET", "HEAD", "POST", "DELETE"]

end Place

/-- What a request asks for, with what its path names in plain text. -/
inductive Endpoint where
  | live
  | ready
  | put (key : String)
  | putBinary (key : String)
  | get (key : String)
  | update (key : String)
  | append (key : String)
  | rename (old new : String)
  | delete (key : String)
  | listBuckets
  | listObjects (bucket : String)
  | headBucket (bucket : String)
  | createBucket (bucket : String)
  | deleteBucket (bucket : String)
  | putObject (bucket key : String)
  | getObject (bucket key : String)
  | headObject (bucket key : String)
  | postObject (bucket key : String)
  | deleteObject (bucket key : String)
  deriving DecidableEq, Repr

/-- Where a method at a path leads. -/
inductive Route where
  /-- The path leads nowhere. -/
  | nowhere
  /-- The path leads to a place that does not take the method. -/
  | wrongMethod (allowed : List String)
  /-- What the path names under this name is no text. -/
  | badText (parameter : String)
  | endpoint (endpoint : Endpoint)
  deriving DecidableEq, Repr

namespace Route

/-- Decodes what a path names under a name, and goes on with it. -/
def withText (parameter sent : String) (next : String → Route) : Route :=
  match Percent.decodedText? sent with
  | some text => next text
  | none => .badText parameter

def withKey (sent : String) (next : String → Endpoint) : Route :=
  withText "key" sent fun key => .endpoint (next key)

def withBucket (sent : String) (next : String → Endpoint) : Route :=
  withText "bucket" sent fun bucket => .endpoint (next bucket)

/-- Decodes the bucket and the key of a path. -/
def withObject (bucket key : String) (next : String → String → Endpoint) : Route :=
  withText "bucket" bucket fun bucket =>
    withText "key" key fun key => .endpoint (next bucket key)

/-- The route of a method at a place. -/
def atPlace (method : String) (place : Place) : Route :=
  if !place.methods.contains method then .wrongMethod place.methods
  else
    match place with
    | .healthz => .endpoint .live
    | .readyz => .endpoint .ready
    | .put key => withKey key .put
    | .putBinary key => withKey key .putBinary
    | .get key => withKey key .get
    | .update key => withKey key .update
    | .append key => withKey key .append
    | .rename old new =>
        withText "old_key" old fun old =>
          withText "new_key" new fun new => .endpoint (.rename old new)
    | .delete key => withKey key .delete
    | .buckets => .endpoint .listBuckets
    | .bucket bucket =>
        if method = "GET" then withBucket bucket .listObjects
        else if method = "HEAD" then withBucket bucket .headBucket
        else if method = "PUT" then withBucket bucket .createBucket
        else withBucket bucket .deleteBucket
    | .object bucket key =>
        if method = "PUT" then withObject bucket key .putObject
        else if method = "GET" then withObject bucket key .getObject
        else if method = "HEAD" then withObject bucket key .headObject
        else if method = "POST" then withObject bucket key .postObject
        else withObject bucket key .deleteObject

/-- The route of a method at a path. -/
def of (method path : String) : Route :=
  match Place.ofPath? path with
  | none => .nowhere
  | some place => atPlace method place

/-- The methods to announce, when the path leads to a place that does not take the method. -/
def allowed? : Route → Option (List String)
  | .wrongMethod allowed => some allowed
  | _ => none

end Route

end Depot.Server
