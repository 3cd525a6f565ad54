import LiteralPack.Audit
import LiteralPack.Cutter
import LiteralPack.Fixture
import LiteralPack.Main
import LiteralPack.Program
import LiteralPack.Proofs.JavaReading
import LiteralPack.Store.Disk
import LiteralPack.Proofs.KotlinReading
import LiteralPack.Proofs.AcceptedCut
import LiteralPack.Proofs.AcceptedFragments
import LiteralPack.Proofs.Agreement
import LiteralPack.Proofs.Splitting
import LiteralPack.Proofs.Rendering
import LiteralPack.Proofs.Names
import LiteralPack.Proofs.Generated
import LiteralPack.Proofs.ClassFile
import LiteralPack.Proofs.Frame
import LiteralPack.Proofs.Sessions
import LiteralPack.Proofs.EmittedNames
import LiteralPack.Proofs.Rearranged
import LiteralPack.Proofs.Scope
import LiteralPack.Proofs.Spelling
import LiteralPack.Proofs.Emission
import LiteralPack.Proofs.Encodability
import LiteralPack.Proofs.Tokens
import LiteralPack.Proofs.OutputPath
import LiteralPack.Proofs.MemberGrammar
import LiteralPack.Proofs.Precedence
import LiteralPack.Proofs.Comparison
import LiteralPack.Proofs.Seams
import LiteralPack.Proofs.Retargeting
import LiteralPack.Proofs.Blame
import LiteralPack.Proofs.PlainNames
import LiteralPack.Proofs.Faultless
import LiteralPack.Proofs.Joining
