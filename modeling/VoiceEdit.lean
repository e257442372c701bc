import VoiceEdit.Main
import VoiceEdit.CommandLine.Desk
import VoiceEdit.Editor.Recorded
import VoiceEdit.EditDistance
import VoiceEdit.Proofs.Buffer.Indexed
import VoiceEdit.Proofs.Buffer.FlatText
import VoiceEdit.Proofs.Substitution.Runs
import VoiceEdit.Proofs.Dictation.Refusal
import VoiceEdit.Proofs.Command.Windows
import VoiceEdit.Proofs.Dictation.Modes
import VoiceEdit.Proofs.Session.Modes
import VoiceEdit.Proofs.Buffer.Timeline
import VoiceEdit.Proofs.Command.LongestTrigger
import VoiceEdit.Proofs.Command.RangeSelection
import VoiceEdit.Proofs.Session.Listening
import VoiceEdit.Proofs.Command.SpokenArguments
import VoiceEdit.Proofs.Substitution.Segmentation
import VoiceEdit.Proofs.Command.Frame
import VoiceEdit.Proofs.Command.Foretelling
import VoiceEdit.Proofs.Session.Contents
import VoiceEdit.Proofs.Command.SpokenLines
import VoiceEdit.Proofs.Command.LetterCase
import VoiceEdit.Proofs.Vocabulary.Configured
import VoiceEdit.Proofs.Command.GivingUp
import VoiceEdit.Proofs.Command.Clauses
import VoiceEdit.Proofs.Command.DeclinedCounts
import VoiceEdit.Proofs.Buffer.Stepping
import VoiceEdit.Proofs.Command.Creation
import VoiceEdit.Proofs.Command.Addition
import VoiceEdit.Proofs.Command.Extending
import VoiceEdit.Proofs.Dictation.StopPhrase
import VoiceEdit.Proofs.Command.HeardAgain
import VoiceEdit.Proofs.Command.AbsoluteJumps
import VoiceEdit.Proofs.Dictation.Spacing
import VoiceEdit.Proofs.Dictation.Marks
import VoiceEdit.Proofs.Buffer.Viewport
import VoiceEdit.Proofs.Vocabulary.Layering
import VoiceEdit.Proofs.Text.PhraseOffsets
import VoiceEdit.Proofs.Substitution.LongestFirst
