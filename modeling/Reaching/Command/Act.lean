/-!
What a command does, in order. An `Act` does some deeds and then has a result or fails; after a
failure nothing more is done, and what was done stays done.
-/
set_option autoImplicit false

namespace Reaching.Command

inductive Level where
  | debug
  | info
  | warning
  deriving DecidableEq, Repr

def Level.name : Level → String
  | debug => "DEBUG"
  | info => "INFO"
  | warning => "WARNING"

inductive Deed where
  | print (line : String)
  | log (level : Level) (source message : String)
  | notice (line : String)
  | write (place : List String) (content : String)
  deriving DecidableEq, Repr

structure Act (ε α : Type) where
  deeds : List Deed
  result : Except ε α

namespace Act

variable {ε α β : Type}

def done (value : α) : Act ε α := ⟨[], .ok value⟩

def fail (error : ε) : Act ε α := ⟨[], .error error⟩

def deed (deed : Deed) : Act ε Unit := ⟨[deed], .ok ()⟩

def ofExcept (result : Except ε α) : Act ε α := ⟨[], result⟩

def bind (first : Act ε α) (next : α → Act ε β) : Act ε β :=
  match first.result with
  | .ok value => ⟨first.deeds ++ (next value).deeds, (next value).result⟩
  | .error error => ⟨first.deeds, .error error⟩

instance : Monad (Act ε) where
  pure := done
  bind := bind

/-- Acts on each item in turn. -/
def each (act : α → Act ε Unit) : List α → Act ε Unit
  | [] => done ()
  | item :: rest => (act item).bind fun _ => each act rest

end Act

end Reaching.Command
