import Bindery.Schema.Model

/-!
# Conformance interfaces

Two interfaces that between them use every kind of parameter, rpcs with and without a reply, and
requests from both sides. Implementations of the wire format are compared on them.
-/

namespace Bindery.Conformance

/-- A parameter that is a sequence of texts. -/
def texts (name : String) : Parameter :=
  ⟨name, .repeated (.scalar .text)⟩

/-- Clients attach to a daemon, which may ask its user for parameters. -/
def daemonController : Interface where
  name := "DaemonController"
  sends :=
    [{ name := "ClientConnect", request := [⟨"server", .scalar .text⟩] },
     { name := "ServerShowClients", reply := [texts "client"] }]
  receives :=
    [{ name := "GetParameterFromUser", request := [texts "name"], reply := [texts "value"] }]

/-- A device reports samples and can be configured. -/
def telemetry : Interface where
  name := "Telemetry"
  sends :=
    [{ name := "Sample",
       request := [⟨"type", .scalar .u8⟩, ⟨"readings", .repeated (.repeated (.scalar .u16))⟩,
         ⟨"sequence", .scalar .u32⟩] },
     { name := "Annotate", request := [⟨"label", .scalar .text⟩, ⟨"weight", .scalar .u16⟩] }]
  receives :=
    [{ name := "Configure", request := [⟨"rate", .scalar .u16⟩],
       reply := [⟨"accepted", .scalar .u8⟩] }]

def interfaces : List Interface := [daemonController, telemetry]

end Bindery.Conformance
