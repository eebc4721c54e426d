import Intake.Authorization
import Intake.Behavior
import Intake.Builder
import Intake.Builder.Arguments
import Intake.Config
import Intake.Config.Options
import Intake.Dialogue
import Intake.Draft
import Intake.Environment
import Intake.ErrorCode
import Intake.Fault
import Intake.Fields
import Intake.Gathering
import Intake.Job
import Intake.Journal
import Intake.Lookup
import Intake.Markup.Element
import Intake.Markup.Pattern
import Intake.Markup.Strip
import Intake.Markup.Tag
import Intake.NameSet
import Intake.Outcome
import Intake.Parse
import Intake.Parser
import Intake.Payload
import Intake.Payload.Display
import Intake.Payload.Dyadic
import Intake.Payload.Entry
import Intake.Payload.Same
import Intake.Payload.Walk
import Intake.Proofs.Course
import Intake.Request
import Intake.RequestId
import Intake.Session
import Intake.Source
import Intake.Specifier
import Intake.Specifier.Compile
import Intake.Specifier.Grammar
import Intake.Text.Blank
import Intake.Text.CodePoints
import Intake.Text.LetterCase
import Intake.Text.Lowercase
import Intake.Text.Occurrence
import Intake.Text.Quoted
import Intake.Text.Visible
import Intake.Text.Word
import Intake.World
import Intake.Proofs.Lookup
import Intake.Proofs.Gathering
import Intake.Proofs.Reading
import Intake.Proofs.Authorization
import Intake.Proofs.Parse
import Intake.Proofs.Modes
import Intake.Proofs.Unrequested
import Intake.Proofs.Surroundings
import Intake.Proofs.Orderly
import Intake.Proofs.Scene
import Intake.Proofs.Faults
import Intake.Proofs.Turns
import Intake.Proofs.Principal
import Intake.Proofs.Crew
import Intake.Proofs.Rounds
import Intake.Proofs.Markup.Elements
import Intake.Proofs.Markup.Walk
import Intake.Proofs.Markup.Clean
import Intake.Proofs.Markup.Veil
import Intake.Proofs.Markup.Reach
import Intake.Proofs.Markup.Margins
import Intake.Proofs.Markup.Tokens
import Intake.Proofs.Keys
import Intake.Proofs.Names
import Intake.Proofs.Sanitizing
import Intake.Proofs.Tour
import Intake.Proofs.Likeness
import Intake.Proofs.Sessions
import Intake.Proofs.Parsers
import Intake.Proofs.Shelter
import Intake.Proofs.Nesting
import Intake.Proofs.Telling
import Intake.Proofs.Entries
import Intake.Proofs.Tracing
import Intake.Proofs.Admission
import Intake.Proofs.Markup.Sifting
import Intake.Proofs.Lossless
import Intake.Proofs.Collecting
import Intake.Proofs.Relaxing
import Intake.Proofs.Starring
import Intake.Proofs.Respelling
import Intake.Proofs.Reordering
import Intake.Proofs.Merging
import Intake.Proofs.Restating
import Intake.Proofs.Checking
import Intake.Proofs.Moving
import Intake.Proofs.Codes
import Intake.Proofs.Decoding
import Intake.Proofs.RequestIds
