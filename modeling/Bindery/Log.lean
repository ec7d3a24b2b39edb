import Bindery.Text.Basic

namespace Bindery

/-- How much a note matters. -/
inductive LogLevel
  | info
  | warning
  deriving DecidableEq, Repr

/-- The part of the work that a note is about. -/
inductive LogTopic
  | navigation
  | builder
  | compiler
  deriving DecidableEq, Repr

/-- A note. -/
structure LogEntry where
  level : LogLevel
  topic : LogTopic
  message : Text
  deriving DecidableEq, Repr

/-- The name of a level. -/
def LogLevel.name : LogLevel → Text
  | .info => "INFO".toList
  | .warning => "WARNING".toList

/-- The name of a topic. -/
def LogTopic.name : LogTopic → Text
  | .navigation => "mdx_typst.navigation".toList
  | .builder => "mdx_typst.builder".toList
  | .compiler => "mdx_typst.compiler".toList

/-- A note as a line of the log. -/
def LogEntry.text (entry : LogEntry) : Text :=
  entry.level.name ++ ' ' :: entry.topic.name ++ ": ".toList ++ entry.message

/-- The result of a piece of work with the notes made on the way. -/
structure Logged (ε α : Type) where
  log : List LogEntry
  result : Except ε α

namespace Logged

/-- A result without notes. -/
def ofExcept {ε α : Type} (result : Except ε α) : Logged ε α :=
  ⟨[], result⟩

/-- A failure. -/
def fail {ε α : Type} (error : ε) : Logged ε α :=
  ⟨[], .error error⟩

/-- A single note. -/
def note {ε : Type} (level : LogLevel) (topic : LogTopic) (message : Text) : Logged ε Unit :=
  ⟨[⟨level, topic, message⟩], .ok ()⟩

/-- One piece of work after another, unless the first fails. -/
def andThen {ε α β : Type} (x : Logged ε α) (f : α → Logged ε β) : Logged ε β :=
  match x.result with
  | .ok a => ⟨x.log ++ (f a).log, (f a).result⟩
  | .error e => ⟨x.log, .error e⟩

instance {ε : Type} : Monad (Logged ε) where
  pure a := ⟨[], .ok a⟩
  bind := andThen

/-- The same work with its errors seen as errors of another kind. -/
def mapError {ε δ α : Type} (f : ε → δ) (x : Logged ε α) : Logged δ α :=
  ⟨x.log, x.result.mapError f⟩

theorem result_bind {ε α β : Type} (x : Logged ε α) (f : α → Logged ε β) :
    (x >>= f).result = x.result.bind fun a => (f a).result := by
  change (andThen x f).result = _
  rw [andThen]
  cases h : x.result <;> rfl

end Logged

end Bindery
