import TextTemplate.Filter.Replace

/-! A cache of compiled patterns that replacing calls share. A call looks for its pattern
and, when it is absent, compiles it and stores it; between the two steps other calls may
take theirs. A full cache is emptied before it takes another entry. -/
namespace TextTemplate

open Replace (Job Request)

structure PatternCache where
  entries : List (Request × Regex)

namespace PatternCache

def limit : Nat := 256

def empty : PatternCache := ⟨[]⟩

def size (cache : PatternCache) : Nat := cache.entries.length

def find? (cache : PatternCache) (request : Request) : Option Regex := cache.entries.lookup request

/-- Stores an entry, in the place of one for the same request. -/
def store (cache : PatternCache) (request : Request) (regex : Regex) : PatternCache :=
  let kept := if limit ≤ cache.size then [] else cache.entries.filter (·.1 != request)
  ⟨(request, regex) :: kept⟩

inductive Progress where
  | looking (job : Job)
  | storing (job : Job) (regex : Regex)
  | answered (answer : Except FilterError Value)

/-- A call reads its arguments first, and when they are faulty it needs no pattern. -/
def Progress.ofArguments (arguments : List Value) : Progress :=
  match Job.read arguments with
  | .error error => .answered (.error error)
  | .ok job => .looking job

/-- The next step of a call on a value, which no other call can divide. -/
def step (value : Value) (cache : PatternCache) : Progress → Progress × PatternCache
  | .looking job =>
    match cache.find? job.request with
    | some regex => (.answered (job.finish value (.ok regex)), cache)
    | none =>
      match job.request.compile with
      | .ok regex => (.storing job regex, cache)
      | .error defect => (.answered (job.finish value (.error defect)), cache)
  | .storing job regex => (.answered (job.finish value (.ok regex)), cache.store job.request regex)
  | .answered answer => (.answered answer, cache)

/-- Calls that share a cache, each with its value and how far it has come. -/
structure Sharing where
  cache : PatternCache
  calls : List (Value × Progress)

namespace Sharing

def start (calls : List (Value × List Value)) : Sharing :=
  ⟨.empty, calls.map fun (value, arguments) => (value, .ofArguments arguments)⟩

def advance (sharing : Sharing) (index : Nat) : Sharing :=
  match sharing.calls[index]? with
  | none => sharing
  | some (value, progress) =>
    let (next, cache) := step value sharing.cache progress
    ⟨cache, sharing.calls.set index (value, next)⟩

/-- Lets calls take steps in an order that need not respect one call at a time. -/
def run (sharing : Sharing) (order : List Nat) : Sharing := order.foldl advance sharing

end Sharing

def fetch (cache : PatternCache) (request : Request) : Except Regex.Defect Regex × PatternCache :=
  match cache.find? request with
  | some regex => (.ok regex, cache)
  | none =>
    match request.compile with
    | .ok regex => (.ok regex, cache.store request regex)
    | .error defect => (.error defect, cache)

def replace (cache : PatternCache) (value : Value) (arguments : List Value) :
    Except FilterError Value × PatternCache :=
  match Job.read arguments with
  | .error error => (.error error, cache)
  | .ok job =>
    let (result, cache) := cache.fetch job.request
    (job.finish value result, cache)

end PatternCache

end TextTemplate
