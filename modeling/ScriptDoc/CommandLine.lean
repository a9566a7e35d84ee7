import ScriptDoc.Text

namespace ScriptDoc

structure Command where
  files : List Text
  context : List Text
  contextFile : Option Text
  template : Option Text
  output : Option Text
  merge : Bool
  verbose : Bool
  deriving Repr, DecidableEq

namespace Command

def empty : Command := ⟨[], [], none, none, none, false, false⟩

def addFiles (c : Command) (files : List Text) : Command := { c with files := c.files ++ files }

end Command

inductive Switch where
  | merge | verbose
  deriving Repr, DecidableEq

inductive Setting where
  | context | contextFile | template | output
  deriving Repr, DecidableEq

-- What a dashed word asks for.
inductive Ask where
  | switch (s : Switch)
  | setting (s : Setting)
  | version
  | help
  deriving Repr, DecidableEq

-- What the command line as a whole asks for.
inductive Invocation where
  | run (c : Command)
  | version
  | help
  | misused
  deriving Repr, DecidableEq

namespace CommandLine

def shortAsk (c : Char) : Option Ask :=
  if c = 'c' then some (.setting .context)
  else if c = 't' then some (.setting .template)
  else if c = 'o' then some (.setting .output)
  else if c = 'm' then some (.switch .merge)
  else if c = 'v' then some (.switch .verbose)
  else if c = 'V' then some .version
  else if c = 'h' then some .help
  else none

-- Names are not abbreviated.
def longAsk (name : Text) : Option Ask :=
  if name = "context" then some (.setting .context)
  else if name = "context-file" then some (.setting .contextFile)
  else if name = "template" then some (.setting .template)
  else if name = "output" then some (.setting .output)
  else if name = "merge" then some (.switch .merge)
  else if name = "verbose" then some (.switch .verbose)
  else if name = "version" then some .version
  else if name = "help" then some .help
  else none

-- Nothing is turned on twice.
def turnOn (c : Command) : Switch → Option Command
  | .merge => if c.merge then none else some { c with merge := true }
  | .verbose => if c.verbose then none else some { c with verbose := true }

-- Context values add up; the other settings are made once, and a file has a name.
def set (c : Command) : Setting → Text → Option Command
  | .context, v => some { c with context := c.context ++ [v] }
  | .contextFile, v =>
    if c.contextFile.isSome || v = [] then none else some { c with contextFile := some v }
  | .template, v => if c.template.isSome then none else some { c with template := some v }
  | .output, v => if c.output.isSome then none else some { c with output := some v }

-- What follows a word: go on, go on with the value of a setting, or stop.
inductive Step where
  | go (c : Command)
  | needs (c : Command) (s : Setting)
  | stop (i : Invocation)
  deriving Repr, DecidableEq

def Step.ofOption : Option Command → Step
  | some c => .go c
  | none => .stop .misused

def dropEquals : Text → Text
  | '=' :: rest => rest
  | t => t

-- Short names can stand together; a setting takes the rest of the word as its value.
def shortWord (c : Command) : Text → Step
  | [] => .go c
  | ch :: rest =>
    match shortAsk ch with
    | none => .stop .misused
    | some .version => .stop .version
    | some .help => .stop .help
    | some (.switch s) =>
      match turnOn c s with
      | some next => shortWord next rest
      | none => .stop .misused
    | some (.setting s) =>
      if rest = [] then .needs c s else .ofOption (set c s (dropEquals rest))

def longWord (c : Command) (word : Text) : Step :=
  match Text.cut '=' word with
  | some (name, value) =>
    match longAsk name with
    | some (.setting s) => .ofOption (set c s value)
    | _ => .stop .misused
  | none =>
    match longAsk word with
    | none => .stop .misused
    | some .version => .stop .version
    | some .help => .stop .help
    | some (.switch s) => .ofOption (turnOn c s)
    | some (.setting s) => .needs c s

-- A lone dash is a word like any other.
def isDashed : Text → Bool
  | '-' :: _ :: _ => true
  | _ => false

def word (c : Command) : Text → Step
  | '-' :: '-' :: rest => longWord c rest
  | '-' :: ch :: rest => shortWord c (ch :: rest)
  | file => .go (c.addFiles [file])

-- From left to right; two dashes alone end the dashed words.
def scan (c : Command) : List Text → Invocation
  | [] => .run c
  | arg :: rest =>
    if arg = "--" then .run (c.addFiles rest)
    else match word c arg with
      | .stop i => i
      | .go next => scan next rest
      | .needs next s =>
        match rest with
        | [] => .misused
        | value :: more =>
          if isDashed value then .misused
          else match set next s value with
            | some after => scan after more
            | none => .misused

def parse (args : List Text) : Invocation := scan .empty args

end CommandLine
end ScriptDoc
