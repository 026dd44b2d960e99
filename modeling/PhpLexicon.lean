import PhpLexicon.Kind.Tag
import PhpLexicon.Lexicon.Builtin
import PhpLexicon.Lexicon.Construction
import PhpLexicon.Lexicon.Munch
import PhpLexicon.Proofs.GuardedMunch
import PhpLexicon.Proofs.Tokenization
import PhpLexicon.Proofs.Listing
import PhpLexicon.Proofs.Lookahead
import PhpLexicon.Proofs.Reordering
import PhpLexicon.Proofs.FirstFault
import PhpLexicon.Proofs.CanonicalOrder
import PhpLexicon.Proofs.Merging
import PhpLexicon.Proofs.Conservation
import PhpLexicon.Proofs.Messages
import PhpLexicon.Proofs.NameFallback
import PhpLexicon.Proofs.BuildLog
import PhpLexicon.Proofs.Tips
import PhpLexicon.Proofs.PrintableLine
