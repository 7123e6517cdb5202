import LatestTag.HostSet

/-!
# Choosing a registry client

Each registry client says which images it serves, most often by their hosts. A dispatcher asks its
clients in the order in which they were registered and takes the first that serves an image; if none
does it takes the default client, whatever images that one serves.
-/

namespace LatestTag

/-- A registry client, as far as the choice among clients goes. -/
structure Client where
  /-- The name of the client. -/
  name : String
  /-- Whether the client serves the image of a reference. -/
  serves : String → Bool

/-- A client that serves the images of some hosts. -/
def Client.ofHosts (name : String) (hosts : HostSet) : Client := ⟨name, hosts.contains⟩

/-- Registry clients to choose from. -/
structure Dispatcher where
  /-- The registered clients, in order. -/
  clients : List Client
  /-- The client for images that none of them serves. -/
  fallback : Client

namespace Dispatcher

/-- A dispatcher with nothing but a default client. -/
def ofFallback (fallback : Client) : Dispatcher := ⟨[], fallback⟩

/-- The dispatcher with one more client, to be asked after those there are. -/
def register (dispatcher : Dispatcher) (client : Client) : Dispatcher :=
  { dispatcher with clients := dispatcher.clients ++ [client] }

/-- The position among the registered clients of the one that serves an image, if one does. -/
def position? (dispatcher : Dispatcher) (url : String) : Option Nat :=
  dispatcher.clients.findIdx? (·.serves url)

/-- The client for an image. -/
def select (dispatcher : Dispatcher) (url : String) : Client :=
  (dispatcher.clients.find? (·.serves url)).getD dispatcher.fallback

/-- The dispatcher as it is shown in diagnostics. -/
def inspect (dispatcher : Dispatcher) : String :=
  Text.inspectRecord "ClientDispatcher" [
    ("clients", Text.inspectList (dispatcher.clients.map fun client => Text.quote client.name)),
    ("default", Text.quote dispatcher.fallback.name)]

end Dispatcher

end LatestTag
