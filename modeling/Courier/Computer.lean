import Courier.Command.Program
import Courier.Files.System
/-!
A computer as data: its files, its clock, what it sent over the network and what was printed on it.
Whoever answers its requests is a function of all that was sent so far, so that two equal requests
may have different replies. Running the program on a computer is a function from computers to
computers.
-/

namespace Courier

structure Computer where
  files : FileSystem := {}
  clock : Clock := default
  documents : DocumentMemory := none
  repository : RepositoryMemory := {}
  /-- The requests that were sent, the last one at the end. -/
  requests : List Request := []
  printed : List String := []
  deriving Inhabited

abbrev Machine := StateM Computer

/-- Whoever answers requests: the reply to the last request of a list. -/
abbrev Peer := List Request → Reply

def Peer.absent : Peer := fun _ => .unreachable

namespace Computer

/-- A part of the computer as a state of its own. -/
@[reducible] def part {σ : Type} (look : Computer → σ) (change : Computer → σ → Computer) :
    MonadStateOf σ Machine where
  get computer := (look computer, computer)
  set value computer := ((), change computer value)
  modifyGet f computer :=
    let (result, value) := f (look computer)
    (result, change computer value)

instance : MonadStateOf FileSystem Machine :=
  part files fun computer files => { computer with files }

instance : MonadStateOf Clock Machine :=
  part clock fun computer clock => { computer with clock }

instance : MonadStateOf DocumentMemory Machine :=
  part documents fun computer documents => { computer with documents }

instance : MonadStateOf RepositoryMemory Machine :=
  part repository fun computer repository => { computer with repository }

def exchange (peer : Peer) : Network Machine := fun request computer =>
  let requests := computer.requests ++ [request]
  (peer requests, { computer with requests })

def say (line : String) : Machine Unit :=
  modifyThe Computer fun computer => { computer with printed := computer.printed ++ [line] }

def surroundings (peer : Peer) (host : HostSource) : Surroundings Machine :=
  { files := FileSystem.access, network := exchange peer, clock := Clock.read, host }

def session (peer : Peer) (host : HostSource) (places : Places) : Session Machine :=
  { around := surroundings peer host, places, say }

/-- The computer when the program starts: nothing is remembered of earlier runs. -/
def fresh (computer : Computer) : Computer :=
  { files := computer.files, clock := computer.clock }

def execute (computer : Computer) (peer : Peer) (host : HostSource) (places : Places)
    (arguments : List String) : Ending × Computer :=
  ((session peer host places).perform arguments).run computer.fresh

end Computer

end Courier
