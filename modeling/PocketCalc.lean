import PocketCalc.Console.Terminal
import PocketCalc.Log
import PocketCalc.Main
import PocketCalc.Proofs.KeptText
import PocketCalc.Proofs.Provenance
import PocketCalc.Proofs.RegisterMachine
import PocketCalc.Proofs.Noninterference
import PocketCalc.Proofs.Phrases
import PocketCalc.Proofs.Sentences
import PocketCalc.Proofs.Readout
import PocketCalc.Proofs.Editing
import PocketCalc.Proofs.PipedSession
import PocketCalc.Proofs.TerminalSession
import PocketCalc.Proofs.ShortestDecimal
import PocketCalc.Proofs.PlainNumeral
import PocketCalc.Proofs.Readback
import PocketCalc.Proofs.SpelledOut
import PocketCalc.Proofs.Decoration
import PocketCalc.Proofs.ExactReading
import PocketCalc.Proofs.MaximalRuns
import PocketCalc.Proofs.Respelling
import PocketCalc.Proofs.Repetition
import PocketCalc.Proofs.DivisionGuard
import PocketCalc.Proofs.LineHistory
import PocketCalc.Proofs.OptionSets
import PocketCalc.Proofs.LineLog
import PocketCalc.Proofs.FewestDigits
import PocketCalc.Proofs.ClosestDecimal
import PocketCalc.Proofs.RecordedNumbers
import PocketCalc.Proofs.RecordTexts
import PocketCalc.Proofs.PlainNotation
