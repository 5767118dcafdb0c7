import Kanaval.Hdf5
import Kanaval.Utils
import Kanaval.Inputs.Parameters
import Kanaval.Inputs.Results
import Kanaval.Inputs.Identities
import Kanaval.Inputs.Files
import Kanaval.Inputs.Runs
import Kanaval.Inputs.Refinement
import Kanaval.Inputs.Details
import Kanaval.Inputs.Bounds
import Kanaval.Inputs.Range
import Kanaval.CustomSelections
import Kanaval.SelectionResults
import Kanaval.Pca
import Kanaval.CombineEmbeddings
import Kanaval.Reorder
import Kanaval.Inputs.Reorder
import Kanaval.LinkOrder
