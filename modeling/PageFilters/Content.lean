import PageFilters.Argument
import PageFilters.Error

namespace PageFilters

/-- The outcome of rendering: a text or the reason there is none. -/
abbrev RenderResult := Except RenderError String

/-- Filters by name, as a template writes them. -/
inductive Call where
  | named (name : String) (args : List Argument)
  | piped (list : String)
deriving DecidableEq, Repr

/-- The stages of a queue of deferred producers. -/
inductive Phase where
  | empty
  | accumulating
  | draining
deriving DecidableEq, Repr

/-- What content sees of the request it runs on. -/
structure Snapshot where
  buffer : String
  output : String
  pending : Nat
  phase : Phase
  finished : Bool
deriving DecidableEq, Repr

/-- A single step that content takes on its request, its cache or the capture slots. -/
inductive Op where
  | print (text : String)
  | readSlot (slot : String)
  | writeSlot (slot text : String)
  | cacheGet (key : String)
  | cacheSet (key value : String) (ttl : Option Nat)
  | cacheInvalidate (key : String)
  | cacheClear
  | cacheSize
  | observe
  | lookup (call : Call)
  | flushBuffer
  | flushDeferred (buffer : String)
  | finish

/-- What a step answers. -/
abbrev Op.Answer : Op → Type
  | print _ => Unit
  | readSlot _ => String
  | writeSlot _ _ => Unit
  | cacheGet _ => Option String
  | cacheSet _ _ _ => Unit
  | cacheInvalidate _ => Unit
  | cacheClear => Unit
  | cacheSize => Nat
  | observe => Snapshot
  | lookup _ => Except FilterError Unit
  | flushBuffer => Except RenderError Unit
  | flushDeferred _ => RenderResult
  | finish => RenderResult

/-- Content as a program: what it does first, and how it goes on with the answer. -/
inductive Content where
  | done (result : RenderResult)
  | perform (op : Op) (next : op.Answer → Content)
  /-- Registers a producer for the next flush. -/
  | defer (producer : Content) (next : Except RenderError Marker → Content)
  /-- Renders the content that the enclosing filter wraps. -/
  | yield (next : RenderResult → Content)
  /-- Renders `inner` through the filters that the call resolves to when it is reached. -/
  | invoke (call : Call) (inner : Content) (next : RenderResult → Content)

namespace Content

def literal (text : String) : Content := done (.ok text)

instance : Inhabited Content := ⟨literal ""⟩

def fail (error : RenderError) : Content := done (.error error)

/-- Runs the first content and hands its result on. -/
def andThen : Content → (RenderResult → Content) → Content
  | done result, k => k result
  | perform op next, k => perform op fun a => (next a).andThen k
  | defer producer next, k => defer producer fun a => (next a).andThen k
  | yield next, k => yield fun r => (next r).andThen k
  | invoke call inner next, k => invoke call inner fun r => (next r).andThen k

/-- Goes on with the text of the first content; an error ends both. -/
def bind (c : Content) (k : String → Content) : Content :=
  c.andThen fun
    | .ok text => k text
    | .error error => fail error

/-- A filter body with `inner` as the content it wraps. -/
def fill (inner : Content) : Content → Content
  | done result => done result
  | perform op next => perform op fun a => fill inner (next a)
  | defer producer next => defer (fill inner producer) fun a => fill inner (next a)
  | yield next => inner.andThen fun r => fill inner (next r)
  | invoke call content next => invoke call (fill inner content) fun r => fill inner (next r)

/-- The texts of all parts, one after the other. -/
def concat : List Content → Content
  | [] => literal ""
  | c :: cs => c.bind fun text => (concat cs).bind fun rest => literal (text ++ rest)

end Content

end PageFilters
